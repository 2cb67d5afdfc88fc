import Klura.Contracts.CanonicalText

/-! Canonical JSON encodes values faithfully, and its strict reader accepts just its own texts. -/

namespace Klura

open StrictJson

/-- A value's canonical text reads back as it, tells it from every other one and is a fixed point,
    and a text is read exactly when it is JSON within the bounds without repeated keys. -/
theorem canonicalJson_faithful (field : Units) (maximumDepth : Nat) (allowed : maximumDepth ≤ 12) :
    (∀ value : JsValue, value.IsJson → value.depth ≤ maximumDepth →
      ∃ text, StrictJson.canonicalJson value = .ok text ∧
        ∀ maximumBytes, utf8Length text ≤ maximumBytes →
        ∃ parsed, parseStrictJson field maximumDepth text maximumBytes = .ok parsed
          ∧ parsed.Same value ∧ StrictJson.canonicalJson parsed = .ok text)
    ∧ (∀ left right : JsValue, left.IsJson → right.IsJson →
      left.depth ≤ maximumDepth → right.depth ≤ maximumDepth →
      (StrictJson.canonicalJson left = StrictJson.canonicalJson right ↔ left.Same right))
    ∧ ∀ (source : Units) (maximumBytes : Nat),
      ((∃ parsed, parseStrictJson field maximumDepth source maximumBytes = .ok parsed) ↔
        utf8Length source ≤ maximumBytes ∧ ∃ written : JsonText, written.text = source
          ∧ written.value.depth ≤ maximumDepth ∧ written.value.KeysDistinct)
      ∧ ∀ parsed, parseStrictJson field maximumDepth source maximumBytes = .ok parsed →
        jsonParse source = some parsed := by
  refine ⟨?_, ?_, ?_⟩
  · intro value json shallow
    refine ⟨(syntaxOf value).text, canonicalJson_eq json (by omega), fun maximumBytes small => ?_⟩
    have same := syntaxOf_value json
    refine ⟨(syntaxOf value).value, parseStrictJson_canonical json shallow field small, same, ?_⟩
    have again := canonicalJson_congr (same.isJson json) json
      (same.depth_le (show value.depth ≤ 100 by omega)) (by omega) same
    rw [again]
    exact canonicalJson_eq json (by omega)
  · intro left right leftJson rightJson leftShallow rightShallow
    constructor
    · exact canonicalJson_same leftJson rightJson (by omega) (by omega)
    · exact canonicalJson_congr leftJson rightJson (by omega) (by omega)
  · intro source maximumBytes
    constructor
    · constructor
      · rintro ⟨parsed, read⟩
        obtain ⟨small, written, text, shallow, distinct, -⟩ :=
          (parseStrictJson_iff source maximumBytes parsed).mp read
        exact ⟨small, written, text, shallow, distinct⟩
      · rintro ⟨small, written, text, shallow, distinct⟩
        exact ⟨written.value.value, (parseStrictJson_iff source maximumBytes _).mpr
          ⟨small, written, text, shallow, distinct, rfl⟩⟩
    · intro parsed read
      obtain ⟨-, written, text, -, -, same⟩ := (parseStrictJson_iff source maximumBytes parsed).mp read
      exact (jsonParse_iff source parsed).mpr ⟨written, text, same⟩

/-- A value with two keys out of order, a negative zero and half a surrogate pair. -/
def unorderedSample : JsValue :=
  .object [(ascii "b", .array [.number (.finite true .zero), .null]),
    (ascii "a", .string [0xD800, 10])]

/-- The sample is rendered in key order, with its zero unsigned, and read back as itself. -/
theorem canonicalJson_faithful_sample :
    StrictJson.canonicalJson unorderedSample
        = .ok (ascii "\x7b\"a\":\"\\ud800\\n\",\"b\":[0,null]\x7d")
      ∧ ∃ parsed, parseStrictJson (ascii "body") 12
          (ascii "\x7b\"a\":\"\\ud800\\n\",\"b\":[0,null]\x7d") 64 = .ok parsed
        ∧ parsed.Same unorderedSample := by
  have json : unorderedSample.IsJson := by
    simp [unorderedSample, JsValue.IsJson, JsValue.itemsJson, JsValue.entriesJson]
    decide
  have shallow : unorderedSample.depth ≤ 12 := by decide
  have rendered : StrictJson.canonicalJson unorderedSample
      = .ok (ascii "\x7b\"a\":\"\\ud800\\n\",\"b\":[0,null]\x7d") := by decide +kernel
  obtain ⟨text, same, reads⟩ :=
    (canonicalJson_faithful (ascii "body") 12 (by decide)).1 unorderedSample json shallow
  rw [rendered] at same
  cases same
  obtain ⟨parsed, read, equal, -⟩ := reads 64 (by decide +kernel)
  exact ⟨rendered, parsed, read, equal⟩

end Klura
