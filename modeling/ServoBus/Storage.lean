import ServoBus.Storage.StoredFile

/-!
# Storage

Where a device keeps its persistent registers: in a file, or in an image of 256 bytes of which the
first ones count as saved. The image can be set to fail, and then refuses everything. Loading
changes nothing in storage, and a load or save that fails leaves everything as it was.
-/

namespace ServoBus

def maxStored : Nat := 256

structure MemoryImage where
  image : Bytes
  /-- How many bytes, from the first on, count as saved. -/
  savedLength : Nat
  failing : Bool
  length_image : image.length = maxStored
  savedLength_le : savedLength ≤ maxStored
  deriving DecidableEq

namespace MemoryImage

def empty : MemoryImage where
  image := List.replicate maxStored 0
  savedLength := 0
  failing := false
  length_image := List.length_replicate
  savedLength_le := Nat.zero_le _

def contents (storage : MemoryImage) : Bytes := storage.image.take storage.savedLength

/-- The index behind the last of `count` bytes from `offset` on, if there is room for them. -/
def limit (storage : MemoryImage) (offset : UInt8) (count : Nat) : Except StorageError Nat :=
  if storage.failing then .error .setToFail
  else if offset.toNat + count ≤ maxStored then .ok (offset.toNat + count)
  else .error (.outOfRange offset.toNat (offset.toNat + count))

def load (storage : MemoryImage) (offset : UInt8) (count : Nat) : Except StorageError Bytes :=
  match storage.limit offset count with
  | .error cause => .error cause
  | .ok limit =>
      if limit ≤ storage.savedLength then .ok (slice storage.image offset.toNat count)
      else .error (.shortImage storage.savedLength limit)

theorem limit_eq_ok_iff {storage : MemoryImage} {offset : UInt8} {count limit : Nat} :
    storage.limit offset count = .ok limit ↔
      storage.failing = false ∧ offset.toNat + count ≤ maxStored ∧
        limit = offset.toNat + count := by
  unfold MemoryImage.limit
  split
  · next hfailing => simp [hfailing]
  · next hworking =>
      split
      · next hroom => simp [hworking, hroom, eq_comm]
      · next hroom => simp [hroom]

theorem limit_le {storage : MemoryImage} {offset : UInt8} {count limit : Nat}
    (h : storage.limit offset count = .ok limit) : limit ≤ maxStored := by
  obtain ⟨-, hroom, rfl⟩ := limit_eq_ok_iff.mp h
  exact hroom

def save (storage : MemoryImage) (offset : UInt8) (data : Bytes) :
    Except StorageError MemoryImage :=
  match h : storage.limit offset data.length with
  | .error cause => .error cause
  | .ok limit =>
      .ok { storage with
        image := overwrite storage.image offset.toNat data
        savedLength := max storage.savedLength limit
        length_image := by simpa using storage.length_image
        savedLength_le := Nat.max_le.mpr ⟨storage.savedLength_le, limit_le h⟩ }

/-- What memory holds once it has kept bytes that there is room for. -/
theorem exists_save_of_limit {storage : MemoryImage} {offset : UInt8} {data : Bytes} {limit : Nat}
    (h : storage.limit offset data.length = .ok limit) :
    ∃ after, storage.save offset data = .ok after ∧ after.failing = storage.failing ∧
      after.savedLength = max storage.savedLength limit ∧
      after.image = overwrite storage.image offset.toNat data := by
  unfold save
  split
  · next cause hcause =>
      rw [h] at hcause
      cases hcause
  · next limit hlimit =>
      rw [h] at hlimit
      cases hlimit
      exact ⟨_, rfl, rfl, rfl, rfl⟩

end MemoryImage

inductive Storage where
  | memory (storage : MemoryImage)
  | file (storage : StoredFile)
  deriving DecidableEq

namespace Storage

def load (storage : Storage) (offset : UInt8) (count : Nat) : Except StorageError Bytes :=
  match storage with
  | memory storage => storage.load offset count
  | file storage => storage.load offset count

def save (storage : Storage) (offset : UInt8) (data : Bytes) : Except StorageError Storage :=
  match storage with
  | memory storage => (storage.save offset data).map memory
  | file storage => (storage.save offset data).map file

/-- The bytes that are kept, if they are kept anywhere. -/
def stored? : Storage → Option Bytes
  | memory storage => some storage.contents
  | file storage => storage.entry.content?

/-- Lets a memory storage fail or work; a file cannot be told to. -/
def setFailing (storage : Storage) (failing : Bool) : Storage :=
  match storage with
  | memory storage => memory { storage with failing }
  | file storage => file storage

/-- Changes what a file storage finds at its path. -/
def mapEntry (storage : Storage) (change : FileEntry → FileEntry) : Storage :=
  match storage with
  | memory storage => memory storage
  | file storage => file { storage with entry := change storage.entry }

end Storage

end ServoBus
