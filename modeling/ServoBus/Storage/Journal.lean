import ServoBus.Bytes

/-!
# Journals

What has been saved, save by save, and the bytes that this amounts to: as many as the furthest save
reaches, each of them from the last save over it, zero where no save has been.
-/

namespace ServoBus

structure Save where
  start : Nat
  data : Bytes
  deriving DecidableEq

namespace Save

/-- The index behind the last byte. -/
def limit (save : Save) : Nat := save.start + save.data.length

def covers (save : Save) (index : Nat) : Bool := save.start ≤ index && index < save.limit

theorem covers_iff {save : Save} {index : Nat} :
    save.covers index = true ↔ save.start ≤ index ∧ index < save.start + save.data.length := by
  simp only [covers, Bool.and_eq_true, decide_eq_true_iff]
  rfl

end Save

/-- Saves, the last one first. -/
abbrev Journal := List Save

namespace Journal

/-- How far the furthest save reaches. -/
def extent (journal : Journal) : Nat := (journal.map Save.limit).foldr max 0

def byteAt (journal : Journal) (index : Nat) : UInt8 :=
  (journal.find? fun save => save.covers index).elim 0 fun save =>
    save.data.getD (index - save.start) 0

def image (journal : Journal) : Bytes := (List.range journal.extent).map journal.byteAt

theorem extent_cons (save : Save) (journal : Journal) :
    extent (save :: journal) = max save.limit journal.extent := rfl

theorem byteAt_cons (save : Save) (journal : Journal) (index : Nat) :
    byteAt (save :: journal) index =
      if save.covers index then save.data.getD (index - save.start) 0
      else journal.byteAt index := by
  unfold byteAt
  rw [List.find?_cons]
  cases save.covers index with
  | true => rfl
  | false => rfl

/-- A new save hides what was under it. -/
theorem byteAt_cons_eq_getD (save : Save) (journal : Journal) (index : Nat) :
    byteAt (save :: journal) index =
      if save.start ≤ index then (save.data[index - save.start]?).getD (journal.byteAt index)
      else journal.byteAt index := by
  rw [byteAt_cons]
  by_cases hstart : save.start ≤ index
  · rw [if_pos hstart]
    by_cases hlimit : index - save.start < save.data.length
    · have hcovers : save.covers index = true := Save.covers_iff.mpr (by omega)
      rw [if_pos hcovers, List.getD_eq_getElem?_getD, List.getElem?_eq_getElem hlimit]
      rfl
    · have hcovers : ¬save.covers index = true := mt Save.covers_iff.mp (by omega)
      rw [if_neg hcovers, List.getElem?_eq_none (Nat.le_of_not_lt hlimit)]
      rfl
  · have hcovers : ¬save.covers index = true := by
      simp [Save.covers, hstart]
    rw [if_neg hstart, if_neg hcovers]

@[simp] theorem length_image (journal : Journal) : journal.image.length = journal.extent := by
  simp [image]

theorem getElem?_image (journal : Journal) (index : Nat) :
    journal.image[index]? =
      if index < journal.extent then some (journal.byteAt index) else none := by
  by_cases h : index < journal.extent
  · rw [if_pos h, image, List.getElem?_map, List.getElem?_range h]
    rfl
  · rw [if_neg h, List.getElem?_eq_none (by simpa using h)]

/-- There is nothing behind the furthest save. -/
theorem byteAt_of_extent_le {journal : Journal} {index : Nat} (h : journal.extent ≤ index) :
    journal.byteAt index = 0 := by
  induction journal with
  | nil => rfl
  | cons save journal ih =>
      rw [extent_cons] at h
      have hlimit : save.limit = save.start + save.data.length := rfl
      have hcovers : ¬save.covers index = true := mt Save.covers_iff.mp (by omega)
      rw [byteAt_cons, if_neg hcovers, ih (by omega)]

end Journal

end ServoBus
