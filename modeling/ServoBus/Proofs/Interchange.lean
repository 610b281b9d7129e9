import ServoBus.Storage
import ServoBus.Storage.Journal

/-!
# One storage for another

Memory and files keep bytes in different ways: memory as an image with a mark behind the furthest
byte that was saved, a file as a content that grows, with zeros in gaps. Nobody who saves and loads
can tell which of them it is. Both do what a journal of the saves says
(`Storage.transcript_eq_journal`).

What makes memory agree is a fact that no load or save can show: behind its mark the image is zero.
-/

namespace ServoBus

/-! ## Calls -/

/-- A call to storage: to keep bytes, or to fill a buffer with those that are kept. -/
inductive StorageCall where
  | save (offset : UInt8) (data : Bytes)
  | load (offset : UInt8) (buffer : Bytes)
  deriving DecidableEq

/-- Some bytes are asked for or handed over, and none behind the last that can be kept. -/
def StorageCall.Fits : StorageCall → Prop
  | save offset bytes | load offset bytes =>
      bytes ≠ [] ∧ offset.toNat + bytes.length ≤ maxStored

instance (call : StorageCall) : Decidable call.Fits := by
  cases call with
  | save | load => exact inferInstanceAs (Decidable (_ ∧ _))

/-- What can be seen of a call: whether it succeeded, what has become of the bytes that the caller
handed over, and all that is kept afterwards. -/
structure Seen where
  succeeded : Bool
  bytes : Bytes
  stored : Bytes
  deriving DecidableEq

namespace Storage

/-- Nothing is kept where there is no file. -/
def contents (storage : Storage) : Bytes := storage.stored?.getD []

/-- A buffer that cannot be filled stays as it is. -/
def answer (storage : Storage) : StorageCall → Seen × Storage
  | .save offset data =>
      match storage.save offset data with
      | .ok after => (⟨true, data, after.contents⟩, after)
      | .error _ => (⟨false, data, storage.contents⟩, storage)
  | .load offset buffer =>
      match storage.load offset buffer.length with
      | .ok data => (⟨true, data, storage.contents⟩, storage)
      | .error _ => (⟨false, buffer, storage.contents⟩, storage)

def transcript (storage : Storage) : List StorageCall → List Seen
  | [] => []
  | call :: calls =>
      let answered := storage.answer call
      answered.1 :: answered.2.transcript calls

end Storage

namespace Journal

/-- Every save is kept, and a load gets what it asks for if all of it was reached by saves. -/
def answer (journal : Journal) : StorageCall → Seen × Journal
  | .save offset data =>
      let after := ⟨offset.toNat, data⟩ :: journal
      (⟨true, data, image after⟩, after)
  | .load offset buffer =>
      if offset.toNat + buffer.length ≤ journal.extent then
        (⟨true, slice journal.image offset.toNat buffer.length, journal.image⟩, journal)
      else (⟨false, buffer, journal.image⟩, journal)

def transcript (journal : Journal) : List StorageCall → List Seen
  | [] => []
  | call :: calls =>
      let answered := journal.answer call
      answered.1 :: answered.2.transcript calls

def entry : Journal → FileEntry
  | [] => .absent
  | journal => .regular journal.image

end Journal

/-! ## Memory -/

namespace MemoryImage

structure Keeps (storage : MemoryImage) (journal : Journal) : Prop where
  working : storage.failing = false
  mark : storage.savedLength = journal.extent
  bytes : ∀ index < maxStored, storage.image[index]? = some (journal.byteAt index)

theorem keeps_empty : empty.Keeps [] where
  working := rfl
  mark := rfl
  bytes := by
    intro index hindex
    exact List.getElem?_replicate_of_lt hindex

theorem contents_of_keeps {storage : MemoryImage} {journal : Journal}
    (h : storage.Keeps journal) : storage.contents = journal.image := by
  have hroom := storage.savedLength_le
  have hmark := h.mark
  apply List.ext_getElem?
  intro index
  rw [contents, List.getElem?_take, h.mark, Journal.getElem?_image]
  split
  · exact h.bytes index (by omega)
  · rfl

theorem limit_of_keeps {storage : MemoryImage} {journal : Journal} (h : storage.Keeps journal)
    {offset : UInt8} {count : Nat} (hfit : offset.toNat + count ≤ maxStored) :
    storage.limit offset count = .ok (offset.toNat + count) := by
  simp [limit, h.working, hfit]

theorem exists_save_of_keeps {storage : MemoryImage} {journal : Journal}
    (h : storage.Keeps journal) {offset : UInt8} {data : Bytes}
    (hfit : offset.toNat + data.length ≤ maxStored) :
    ∃ after, storage.save offset data = .ok after ∧
      after.Keeps (⟨offset.toNat, data⟩ :: journal) := by
  obtain ⟨after, hsave, hfailing, hsaved, himage⟩ := exists_save_of_limit (limit_of_keeps h hfit)
  refine ⟨after, hsave, ?_, ?_, ?_⟩
  · rw [hfailing, h.working]
  · rw [hsaved, h.mark, Journal.extent_cons]
    exact Nat.max_comm ..
  · intro index hindex
    rw [himage, getElem?_overwrite, h.bytes index hindex, Option.map_some,
      Journal.byteAt_cons_eq_getD]

theorem load_of_keeps {storage : MemoryImage} {journal : Journal} (h : storage.Keeps journal)
    {offset : UInt8} {count : Nat} (hfit : offset.toNat + count ≤ maxStored) :
    storage.load offset count =
      if offset.toNat + count ≤ journal.extent then
        .ok (slice journal.image offset.toNat count)
      else .error (.shortImage journal.extent (offset.toNat + count)) := by
  rw [load, limit_of_keeps h hfit]
  dsimp only
  rw [h.mark]
  split
  · next hsaved =>
      congr 1
      apply List.ext_getElem?
      intro index
      rw [slice, slice, List.getElem?_take, List.getElem?_take, List.getElem?_drop,
        List.getElem?_drop, Journal.getElem?_image]
      split
      · rw [if_pos (by omega), h.bytes _ (by omega)]
      · rfl
  · rfl

end MemoryImage

/-! ## Files -/

/-- Bytes written into the image of the saves so far make the image of one save more. -/
theorem writeAt_image (save : Save) (journal : Journal) (hdata : save.data ≠ []) :
    writeAt journal.image save.start save.data = Journal.image (save :: journal) := by
  have hsize : 0 < save.data.length := List.length_pos_iff.mpr hdata
  have hlimit : save.limit = save.start + save.data.length := rfl
  apply List.ext_getElem?
  intro index
  rw [getElem?_writeAt hdata, Journal.getElem?_image, Journal.getElem?_image,
    Journal.extent_cons, Journal.byteAt_cons_eq_getD]
  by_cases hstart : save.start ≤ index
  · rw [if_pos hstart]
    by_cases hinside : index - save.start < save.data.length
    · rw [if_pos (by omega), if_pos (by omega), List.getElem?_eq_getElem hinside]
      rfl
    · have hextent : index < max save.limit journal.extent ↔ index < journal.extent := by omega
      rw [if_neg (by omega), if_neg (by omega), List.getElem?_eq_none (Nat.le_of_not_lt hinside)]
      simp only [hextent, Option.getD_none]
  · rw [if_neg (by omega), if_pos (by omega), if_neg hstart, if_pos (by omega),
      List.getD_eq_getElem?_getD, Journal.getElem?_image]
    split
    · rfl
    · rw [Journal.byteAt_of_extent_le (by omega)]
      rfl

namespace StoredFile

variable {storage : StoredFile} {journal : Journal} {offset : UInt8}

theorem contents_of_entry (h : storage.entry = journal.entry) :
    storage.entry.content?.getD [] = journal.image := by
  rw [h]
  cases journal with
  | nil => rfl
  | cons => rfl

theorem save_of_entry (h : storage.entry = journal.entry) {data : Bytes} (hdata : data ≠ []) :
    storage.save offset data =
      .ok { storage with entry := Journal.entry (⟨offset.toNat, data⟩ :: journal) } := by
  have hwritten : writeAt journal.image offset.toNat data =
      Journal.image (⟨offset.toNat, data⟩ :: journal) :=
    writeAt_image ⟨offset.toNat, data⟩ journal hdata
  change _ = Except.ok { storage with
    entry := .regular (Journal.image (⟨offset.toNat, data⟩ :: journal)) }
  rw [save, h, ← hwritten]
  cases journal with
  | nil => rfl
  | cons => rfl

theorem load_of_entry (h : storage.entry = journal.entry) {count : Nat} (hsize : 0 < count)
    (hfit : offset.toNat + count ≤ maxStored) :
    storage.load offset count =
      if offset.toNat + count ≤ journal.extent then
        .ok (slice journal.image offset.toNat count)
      else if journal = [] then storage.failed .opening .notFound
      else storage.failed .reading .tooShort := by
  have hshort : ¬maxLoad < count := by
    have hsame : maxLoad = maxStored := rfl
    omega
  rw [load, if_neg hshort, h]
  cases journal with
  | nil =>
      have hnone : ¬offset.toNat + count ≤ Journal.extent [] := by
        have hextent : Journal.extent [] = 0 := rfl
        omega
      rw [if_neg hnone]
      rfl
  | cons save journal =>
      have hasked : offset.toNat + count ≤ (Journal.image (save :: journal)).length ∨ count = 0 ↔
          offset.toNat + count ≤ Journal.extent (save :: journal) := by
        rw [Journal.length_image]
        omega
      simp only [Journal.entry, hasked]
      rfl

end StoredFile

/-! ## Either of them -/

namespace Storage

def Keeps (journal : Journal) : Storage → Prop
  | memory storage => storage.Keeps journal
  | file storage => storage.entry = journal.entry

variable {storage : Storage} {journal : Journal} {offset : UInt8}

theorem contents_of_keeps (h : storage.Keeps journal) : storage.contents = journal.image := by
  cases storage with
  | memory storage => exact MemoryImage.contents_of_keeps h
  | file storage => exact StoredFile.contents_of_entry h

theorem exists_save_of_keeps (h : storage.Keeps journal) {data : Bytes} (hdata : data ≠ [])
    (hfit : offset.toNat + data.length ≤ maxStored) :
    ∃ after, storage.save offset data = .ok after ∧
      after.Keeps (⟨offset.toNat, data⟩ :: journal) := by
  cases storage with
  | memory storage =>
      obtain ⟨after, hsave, hafter⟩ := MemoryImage.exists_save_of_keeps h hfit
      refine ⟨memory after, ?_, hafter⟩
      rw [save, hsave]
      rfl
  | file storage =>
      let after := { storage with entry := Journal.entry (⟨offset.toNat, data⟩ :: journal) }
      have hsave : storage.save offset data = .ok after := StoredFile.save_of_entry h hdata
      refine ⟨file after, ?_, rfl⟩
      rw [save, hsave]
      rfl

theorem load_of_keeps (h : storage.Keeps journal) {count : Nat} (hsize : 0 < count)
    (hfit : offset.toNat + count ≤ maxStored) :
    ∃ cause, storage.load offset count =
      if offset.toNat + count ≤ journal.extent then
        .ok (slice journal.image offset.toNat count)
      else .error cause := by
  cases storage with
  | memory storage => exact ⟨_, MemoryImage.load_of_keeps h hfit⟩
  | file storage =>
      have hload := StoredFile.load_of_entry h hsize hfit
      by_cases hnone : journal = []
      · rw [if_pos hnone] at hload
        exact ⟨_, hload⟩
      · rw [if_neg hnone] at hload
        exact ⟨_, hload⟩

theorem answer_of_keeps (h : storage.Keeps journal) {call : StorageCall} (hfit : call.Fits) :
    (storage.answer call).1 = (journal.answer call).1 ∧
      (storage.answer call).2.Keeps (journal.answer call).2 := by
  cases call with
  | save offset data =>
      obtain ⟨after, hsave, hafter⟩ := exists_save_of_keeps h hfit.1 hfit.2
      rw [answer, hsave, Journal.answer]
      dsimp only
      rw [contents_of_keeps hafter]
      exact ⟨rfl, hafter⟩
  | load offset buffer =>
      have hsize : 0 < buffer.length := List.length_pos_iff.mpr hfit.1
      obtain ⟨cause, hload⟩ := load_of_keeps h hsize hfit.2
      rw [answer, hload, Journal.answer, contents_of_keeps h]
      by_cases hreached : offset.toNat + buffer.length ≤ journal.extent
      · rw [if_pos hreached, if_pos hreached]
        exact ⟨rfl, h⟩
      · rw [if_neg hreached, if_neg hreached]
        exact ⟨rfl, h⟩

theorem transcript_of_keeps (h : storage.Keeps journal) {calls : List StorageCall}
    (hfit : ∀ call ∈ calls, call.Fits) :
    storage.transcript calls = journal.transcript calls := by
  induction calls generalizing storage journal with
  | nil => rfl
  | cons call calls ih =>
      obtain ⟨hcall, hcalls⟩ := List.forall_mem_cons.mp hfit
      obtain ⟨hseen, hafter⟩ := answer_of_keeps h hcall
      rw [transcript, Journal.transcript, hseen, ih hafter hcalls]

/-- Memory in which nothing has been saved and a file that is not there yet answer every run of
saves and loads alike. What is seen of each call is what a journal of the saves says: that a save
succeeds, that a load succeeds if the saves have reached as far as it asks and else leaves its
buffer alone, and that everything up to the furthest save is kept. -/
theorem transcript_eq_journal (path : String) {calls : List StorageCall}
    (h : ∀ call ∈ calls, call.Fits) :
    (memory .empty).transcript calls = Journal.transcript [] calls ∧
      (file ⟨path, .absent⟩).transcript calls = Journal.transcript [] calls := by
  have hmemory : (memory .empty).Keeps [] := MemoryImage.keeps_empty
  have hfile : (file ⟨path, .absent⟩).Keeps [] := rfl
  exact ⟨transcript_of_keeps hmemory h, transcript_of_keeps hfile h⟩

/-- A load finds nothing. Then one save leaves a gap at the front and the next one covers a part of
it, a load crosses both, and another asks for one byte too many. -/
theorem transcript_eq_journal_of_gap :
    let calls : List StorageCall := [
      .load 0 [9], .save 4 [1, 2, 3], .save 3 [7, 8], .load 2 [9, 9, 9, 9], .load 5 [9, 9, 9]]
    let seen : List Seen := [
      ⟨false, [9], []⟩,
      ⟨true, [1, 2, 3], [0, 0, 0, 0, 1, 2, 3]⟩,
      ⟨true, [7, 8], [0, 0, 0, 7, 8, 2, 3]⟩,
      ⟨true, [0, 7, 8, 2], [0, 0, 0, 7, 8, 2, 3]⟩,
      ⟨false, [9, 9, 9], [0, 0, 0, 7, 8, 2, 3]⟩]
    (∀ call ∈ calls, call.Fits) ∧ Journal.transcript [] calls = seen ∧
      (memory .empty).transcript calls = seen ∧
      (file ⟨"servo.bin", .absent⟩).transcript calls = seen := by
  intro calls seen
  have hfit : ∀ call ∈ calls, call.Fits := by decide
  have hjournal : Journal.transcript [] calls = seen := by decide +kernel
  obtain ⟨hmemory, hfile⟩ := transcript_eq_journal "servo.bin" hfit
  exact ⟨hfit, hjournal, hmemory.trans hjournal, hfile.trans hjournal⟩

end Storage

end ServoBus
