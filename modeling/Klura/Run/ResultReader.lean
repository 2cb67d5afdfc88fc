import Klura.Run.ItemEmission

/-! Reading committed and pending items back from the journal and the spool. -/

namespace Klura

/-- The deepest JSON a blob may hold. -/
def BLOB_DEPTH_LIMIT : Nat := 12

/-- Reads the value a reference stands for back from the spool. -/
def readDataBlob (disk : Disk) (reference : BlobRefV1) : Except RunError BlobContentV1 := do
  parseBlobRef reference "blob_ref"
  if disk.spoolBytes < reference.offset + reference.length then
    throw (.dataSpool .spoolCorrupt "blob reference is outside the data spool")
  match disk.blobs.find? fun blob => blob.2 = reference with
  | none => throw (.dataSpool .spoolCorrupt "blob digest does not match spool bytes")
  | some (content, _) =>
    if BLOB_DEPTH_LIMIT < jsonDepth content.value then
      throw (.publicContract "data_spool_blob" "exceeds maximum depth 12")
    return content

/-- An item position that has been buffered and not resolved. -/
structure BufferedEntryV1 where
  data : BlobRefV1
  nodeId : RunNodeIdV1
  identityDigest : Sha256DigestV1
  logicalOrder : ItemLogicalOrderV1

/-- The unresolved entry at an item position. -/
def findBuffered (entries : List BufferedEntryV1) (order : ItemLogicalOrderV1) :
    Option BufferedEntryV1 :=
  entries.find? fun entry => entry.logicalOrder = order

/-- The unresolved entries without the one at an item position. -/
def dropBuffered (entries : List BufferedEntryV1) (order : ItemLogicalOrderV1) :
    List BufferedEntryV1 :=
  entries.filter fun entry => entry.logicalOrder ≠ order

/-- The unresolved entry at a position, when it was buffered by this node with this identity. -/
def matchBuffered (entries : List BufferedEntryV1) (nodeId : RunNodeIdV1)
    (identityDigest : Sha256DigestV1) (order : ItemLogicalOrderV1) : Option BufferedEntryV1 :=
  (findBuffered entries order).filter fun entry =>
    decide (entry.nodeId = nodeId ∧ entry.identityDigest = identityDigest)

/-- A committed item with the node and sequence it was committed under. -/
structure CommittedRunItemV1 where
  item : BlobContentV1
  nodeId : RunNodeIdV1
  sequence : Nat

/-- What a walk over the journal's item frames has seen, with the items newest first. -/
structure ItemVisitV1 where
  buffered : List BufferedEntryV1
  committed : List Sha256DigestV1
  lastItemSequence : Nat
  lastLogicalOrder : Option ItemLogicalOrderV1
  items : List CommittedRunItemV1

/-- The walk before its first frame. -/
def ItemVisitV1.initial : ItemVisitV1 :=
  { buffered := [], committed := [], lastItemSequence := 0, lastLogicalOrder := none, items := [] }

/-- Whether a position does not stand strictly after the last one, when there is one. -/
def breaksLogicalOrder (last : Option ItemLogicalOrderV1) (order : ItemLogicalOrderV1) : Bool :=
  match last with
  | none => false
  | some last => decide (0 ≤ compareItemLogicalOrder last order)

/-- The walk after one more event. -/
def visitItemEvent (disk : Disk) (visit : ItemVisitV1) (event : JournalEventV1) :
    Except RunError ItemVisitV1 :=
  match event with
  | .itemBuffered nodeId identityDigest data logicalOrder =>
    if (findBuffered visit.buffered logicalOrder).isSome then
      .error (.runResult "item logical position is buffered more than once")
    else .ok { visit with buffered :=
        { data, nodeId, identityDigest, logicalOrder } :: visit.buffered }
  | .itemDuplicate nodeId identityDigest logicalOrder =>
    if (matchBuffered visit.buffered nodeId identityDigest logicalOrder).isNone ∨
        identityDigest ∉ visit.committed then
      .error (.runResult "item duplicate has no resolved preceding buffer")
    else .ok { visit with buffered := dropBuffered visit.buffered logicalOrder }
  | .itemCommitted nodeId identityDigest logicalOrder itemSequence =>
    match matchBuffered visit.buffered nodeId identityDigest logicalOrder with
    | none => .error (.runResult "item commit has no unique preceding buffer")
    | some entry =>
      if identityDigest ∈ visit.committed then
        .error (.runResult "item commit has no unique preceding buffer")
      else if itemSequence ≠ visit.lastItemSequence + 1 then
        .error (.runResult "item commit does not extend the durable item sequence")
      else if breaksLogicalOrder visit.lastLogicalOrder logicalOrder then
        .error (.runResult "item commit is not in logical order")
      else do
        let item ← readDataBlob disk entry.data
        return { buffered := dropBuffered visit.buffered logicalOrder,
                 committed := identityDigest :: visit.committed,
                 lastItemSequence := itemSequence, lastLogicalOrder := some logicalOrder,
                 items := { item, nodeId, sequence := itemSequence } :: visit.items }
  | _ => .ok visit

/-- The walk over a journal's frames, which are given newest first. -/
def visitFrames (disk : Disk) : List JournalFrameV1 → Except RunError ItemVisitV1
  | [] => .ok .initial
  | frame :: older => do
    let visit ← visitFrames disk older
    visitItemEvent disk visit frame.body.event

/-- The committed items of a journal, in commit order. -/
def visitCommittedRunItems (disk : Disk) : Except RunError (List CommittedRunItemV1) :=
  (visitFrames disk disk.frames).map fun visit => visit.items.reverse

/-- Reads the committed durable item sequence in journal order. -/
def readCommittedRunItems (disk : Disk) : Except RunError (List JsonValueV1) :=
  (visitCommittedRunItems disk).map fun items => items.map fun item => item.item.value

/-- Reads the committed items emitted by one durable collection node. -/
def readCommittedNodeItems (disk : Disk) (nodeId : RunNodeIdV1) :
    Except RunError (List JsonValueV1) :=
  (visitCommittedRunItems disk).map fun items =>
    (items.filter fun item => item.nodeId = nodeId).map fun item => item.item.value

/-- The unresolved entries after one more event. -/
def pendingItemEvent (buffered : List BufferedEntryV1) (event : JournalEventV1) :
    Except RunError (List BufferedEntryV1) :=
  let resolve (nodeId : RunNodeIdV1) (identityDigest : Sha256DigestV1)
      (logicalOrder : ItemLogicalOrderV1) : Except RunError (List BufferedEntryV1) :=
    if (matchBuffered buffered nodeId identityDigest logicalOrder).isNone then
      .error (.runResult "item resolution has no matching buffer")
    else .ok (dropBuffered buffered logicalOrder)
  match event with
  | .itemBuffered nodeId identityDigest data logicalOrder =>
    if (findBuffered buffered logicalOrder).isSome then
      .error (.runResult "item logical position is buffered more than once")
    else .ok ({ data, nodeId, identityDigest, logicalOrder } :: buffered)
  | .itemCommitted nodeId identityDigest logicalOrder _ =>
    resolve nodeId identityDigest logicalOrder
  | .itemDuplicate nodeId identityDigest logicalOrder =>
    resolve nodeId identityDigest logicalOrder
  | _ => .ok buffered

/-- The unresolved entries of a journal, whose frames are given newest first. -/
def pendingFrames : List JournalFrameV1 → Except RunError (List BufferedEntryV1)
  | [] => .ok []
  | frame :: older => do
    let buffered ← pendingFrames older
    pendingItemEvent buffered frame.body.event

/-- A buffered item as a resumed execution reserves for it. -/
def rebuildBufferedItem (disk : Disk) (entry : BufferedEntryV1) :
    Except RunError BufferedRunItemV1 := do
  let content ← readDataBlob disk entry.data
  let itemBytes := canonicalBytes content.value
  return { nodeId := entry.nodeId, identityDigest := entry.identityDigest,
           logicalOrder := entry.logicalOrder, item := content.value, itemBytes,
           reservedOutputBytes := itemBytes + 1 }

/-- The buffered items of a list of unresolved entries. -/
def rebuildBufferedItems (disk : Disk) :
    List BufferedEntryV1 → Except RunError (List BufferedRunItemV1)
  | [] => .ok []
  | entry :: rest => do
    let item ← rebuildBufferedItem disk entry
    let items ← rebuildBufferedItems disk rest
    return item :: items

/-- Reconstructs durable but uncommitted item buffers for safe-read resume, in logical order. -/
def readPendingBufferedRunItems (disk : Disk) : Except RunError (List BufferedRunItemV1) := do
  let buffered ← pendingFrames disk.frames
  rebuildBufferedItems disk (buffered.insertionSort fun left right =>
    compareItemLogicalOrder left.logicalOrder right.logicalOrder ≤ 0)

end Klura
