import ServoBus.Storage.FileEntry

/-!
# File storage

Storage in whatever a path leads to. Writing past the end of a regular file fills the gap with
zeros.
-/

namespace ServoBus

def maxLoad : Nat := 256

/-- The content of a file once bytes are written into it from an index on. -/
def writeAt (content : Bytes) (start : Nat) (data : Bytes) : Bytes :=
  if data = [] then content
  else
    content.take start ++ List.replicate (start - content.length) 0 ++ data ++
      content.drop (start + data.length)

/-- Bytes written somewhere stand there. What was before them stays, and zeros fill the gap up to
them. -/
theorem getElem?_writeAt {content data : Bytes} {start : Nat} (hdata : data ≠ []) (index : Nat) :
    (writeAt content start data)[index]? =
      if start ≤ index ∧ index < start + data.length then data[index - start]?
      else if index < start then some (content.getD index 0) else content[index]? := by
  let front := content.take start ++ List.replicate (start - content.length) 0
  have hfront : front.length = start := by
    simp only [front, List.length_append, List.length_take, List.length_replicate]
    omega
  have hwritten : writeAt content start data =
      front ++ (data ++ content.drop (start + data.length)) := by
    rw [writeAt, if_neg hdata, List.append_assoc]
  rw [hwritten, List.getElem?_append, hfront]
  by_cases hbefore : index < start
  · have hnot : ¬(start ≤ index ∧ index < start + data.length) := by omega
    rw [if_pos hbefore, if_neg hnot, if_pos hbefore, List.getElem?_append, List.length_take,
      List.getElem?_take, if_pos hbefore, List.getElem?_replicate, List.getD_eq_getElem?_getD]
    by_cases hold : index < content.length
    · rw [if_pos (by omega)]
      simp [hold]
    · rw [if_neg (by omega), if_pos (by omega)]
      simp [hold]
  · rw [if_neg hbefore, List.getElem?_append]
    by_cases hin : index < start + data.length
    · rw [if_pos (by omega), if_pos ⟨by omega, hin⟩]
    · have hnot : ¬(start ≤ index ∧ index < start + data.length) := by omega
      have hbehind : start + data.length + (index - start - data.length) = index := by omega
      rw [if_neg (by omega), if_neg hnot, if_neg hbefore, List.getElem?_drop, hbehind]

/-- Bytes written at the front stand before what is left of the content. -/
theorem writeAt_zero (content data : Bytes) :
    writeAt content 0 data = data ++ content.drop data.length := by
  unfold writeAt
  split
  · next hdata => simp [hdata]
  · simp

structure StoredFile where
  path : String
  entry : FileEntry
  deriving DecidableEq

namespace StoredFile

def failed (storage : StoredFile) (action : FileAction) (obstacle : FileObstacle) :
    Except StorageError α :=
  .error (.file action storage.path obstacle)

/-- Reads `count` bytes from `offset` on. All of them must be there. -/
def load (storage : StoredFile) (offset : UInt8) (count : Nat) : Except StorageError Bytes :=
  if maxLoad < count then .error (.longLoad count)
  else
    match storage.entry with
    | .regular content =>
        if offset.toNat + count ≤ content.length ∨ count = 0 then
          .ok (slice content offset.toNat count)
        else storage.failed .reading .tooShort
    | .absent => storage.failed .opening .notFound
    | .barred obstacle _ => storage.failed .opening obstacle
    | .directory => if count = 0 then .ok [] else storage.failed .reading .isDirectory
    | .nullDevice => if count = 0 then .ok [] else storage.failed .reading .tooShort
    | .fullDevice => .ok (List.replicate count 0)

/-- Writes bytes from `offset` on, into a new file if there is none. -/
def save (storage : StoredFile) (offset : UInt8) (data : Bytes) :
    Except StorageError StoredFile :=
  match storage.entry with
  | .regular content => .ok { storage with entry := .regular (writeAt content offset.toNat data) }
  | .absent => .ok { storage with entry := .regular (writeAt [] offset.toNat data) }
  | .barred _ obstacle => storage.failed .opening obstacle
  | .directory => storage.failed .opening .isDirectory
  | .nullDevice => .ok storage
  | .fullDevice => if data = [] then .ok storage else storage.failed .writing .noSpace

end StoredFile

end ServoBus
