import ServoBus.Proofs.Conduct
import ServoBus.Proofs.Restart

/-!
# What follows the registers

Two registers are felt outside the table. The line runs at the rate that the baud register stands
for, and the lamp of a servo shines while its register is not zero. Both follow a write only if it
is made to their own register. A device writes all that it writes register by register, so both keep
up with whatever it is told, and a restart sets them as it sets the registers.

Main statement: `Device.inStep_of_packets`.
-/

namespace ServoBus

namespace Table

/-! ## In step -/

/-- The line has the rate that the baud register stands for. -/
def RateFollows (table : Table) : Prop :=
  table.lineRate? = some (baudClock / ((table.registers.byteAt Offset.baud.toNat).toNat + 1))

/-- There is a servo, and its lamp shines exactly if its register is not zero. A table may be too
short for that register. -/
def LampFollows (table : Table) : Prop :=
  ∃ servo, table.peripheral = .servo servo ∧
    (Offset.led.toNat < table.length →
      (servo.ledOn = true ↔ table.registers.byteAt Offset.led.toNat ≠ 0))

structure InStep (table : Table) : Prop where
  rate : table.RateFollows
  lamp : table.LampFollows

/-! ## Writing one register -/

theorem byteAt_written_of_ne (table : Table) {offset : UInt8} {index : Nat}
    (h : index ≠ offset.toNat) (value : UInt8) :
    (table.written offset value).registers.byteAt index = table.registers.byteAt index := by
  rw [registers_written]
  change (overwrite table.registers.bytes offset.toNat [value]).getD index 0 = _
  rw [overwrite_singleton, List.getD_eq_getElem?_getD, List.getElem?_set_ne (Ne.symm h),
    ← List.getD_eq_getElem?_getD]
  rfl

@[simp] theorem lineRate?_lit (table : Table) (offset : UInt8) :
    (table.lit offset).lineRate? = table.lineRate? := by
  unfold lit
  split
  · split <;> rfl
  · rfl
  · rfl

/-- The line follows a write of the baud register, and no other write concerns it. -/
theorem rateFollows_written {table : Table} {offset : UInt8}
    (h : offset = Offset.baud ∨ table.RateFollows) (value : UInt8) :
    (table.written offset value).RateFollows := by
  by_cases hbaud : offset = Offset.baud
  · rw [RateFollows, written, lineRate?_lit, registers_lit, registers_rated, rated, if_pos hbaud]
  · have hrate := h.resolve_left hbaud
    have hother : Offset.baud.toNat ≠ offset.toNat := fun hsame =>
      hbaud (UInt8.toNat_inj.mp hsame.symm)
    rw [RateFollows, byteAt_written_of_ne table hother, written, lineRate?_lit, rated,
      if_neg hbaud]
    exact hrate

theorem lampFollows_written {table : Table} {offset : UInt8}
    (hservo : ∃ servo, table.peripheral = .servo servo)
    (h : offset = Offset.led ∨ table.LampFollows) (value : UInt8) :
    (table.written offset value).LampFollows := by
  by_cases hled : offset = Offset.led
  · obtain ⟨servo, hservo⟩ := hservo
    let replaced := (table.replace offset.toNat [value]).rated offset
    have hperipheral : replaced.peripheral = .servo servo := by
      rw [peripheral_rated]
      exact hservo
    let ledOn : Bool := replaced.registers.byteAt Offset.led.toNat ≠ 0
    have hlit : replaced.lit offset =
        { replaced with peripheral := .servo { servo with ledOn } } := by
      rw [lit, hperipheral]
      exact if_pos hled
    refine ⟨{ servo with ledOn }, ?_, ?_⟩
    · rw [written, hlit]
    · intro _
      rw [written, registers_lit]
      exact decide_eq_true_iff
  · obtain ⟨servo, hservo, hlamp⟩ := h.resolve_left hled
    have hother : Offset.led.toNat ≠ offset.toNat := fun hsame =>
      hled (UInt8.toNat_inj.mp hsame.symm)
    refine ⟨servo, ?_, ?_⟩
    · rw [peripheral_written_of_ne table hled]
      exact hservo
    · rw [length_written, byteAt_written_of_ne table hother]
      exact hlamp

theorem inStep_written {table : Table} (h : table.InStep) (offset value : UInt8) :
    (table.written offset value).InStep where
  rate := rateFollows_written (Or.inr h.rate) value
  lamp := lampFollows_written ⟨_, h.lamp.choose_spec.1⟩ (Or.inr h.lamp) value

/-! ## Reads, writes and restarts -/

theorem inStep_refreshed {table : Table} (h : table.InStep) (offset : UInt8) :
    (table.refreshed offset).InStep := by
  have hbyte : ∀ index, index ≠ Offset.temperature.toNat →
      (table.refreshed offset).registers.byteAt index = table.registers.byteAt index := by
    intro index hindex
    simp only [Registers.byteAt, List.getD_eq_getElem?_getD]
    rw [getElem?_refreshed_of_ne_temperature table offset hindex]
  have hrate : (table.refreshed offset).lineRate? = table.lineRate? := by
    unfold refreshed
    split
    · split <;> rfl
    · rfl
    · rfl
  obtain ⟨servo, hservo, hlamp⟩ := h.lamp
  refine ⟨?_, servo, ?_, ?_⟩
  · rw [RateFollows, hrate, hbyte _ (by decide)]
    exact h.rate
  · rw [peripheral_refreshed]
    exact hservo
  · rw [length_refreshed, hbyte _ (by decide)]
    exact hlamp

theorem inStep_refreshedFrom {table : Table} (h : table.InStep) (start count : Nat) :
    (table.refreshedFrom start count).InStep := by
  induction count generalizing table start with
  | zero => exact h
  | succ count ih => exact ih (inStep_refreshed h _) _

theorem inStep_writtenFrom {table : Table} (h : table.InStep) (start : Nat) (data : Bytes) :
    (table.writtenFrom start data).InStep := by
  induction data generalizing table start with
  | nil => exact h
  | cons value data ih => exact ih (inStep_written h _ value) _

theorem inStep_saved {table : Table} (h : table.InStep) : table.saved.InStep := by
  unfold saved
  split
  · exact ⟨h.rate, h.lamp⟩
  · exact h

theorem inStep_applied {table : Table} (h : table.InStep) (start : UInt8) (data : Bytes) :
    (table.applied start data).InStep := by
  have hwritten := inStep_writtenFrom h start.toNat data
  unfold applied
  split
  · exact inStep_saved hwritten
  · exact hwritten

theorem rateFollows_initialised {table : Table} (h : table.RateFollows) :
    table.initialised.RateFollows := by
  have hbaud : Offset.baud.toNat < table.registers.length :=
    Nat.lt_trans (by decide) table.returnDelay_lt
  have hmodel : Field.u16.encode 0x000C = [0x0C, 0x00] := by decide
  have hversion : Field.u8.encode 1 = [0x01] := by decide
  unfold initialised
  split
  · rw [RateFollows]
    dsimp only [registers_replace]
    rw [hmodel, hversion, Registers.byteAt_replace _ _ _ (by simpa using hbaud),
      Registers.byteAt_replace _ _ _ hbaud]
    exact h
  · exact h
  · exact h

theorem rateFollows_restarted (table : Table) : table.restarted.RateFollows := by
  let cleared := table.replace 0 (List.replicate table.length 0)
  have hbaud : ((cleared.written Offset.id 0).written Offset.baud 1).RateFollows :=
    rateFollows_written (Or.inl rfl) 1
  exact rateFollows_initialised (rateFollows_written (Or.inr hbaud) 250)

theorem byteAt_led_restarted (table : Table) :
    table.restarted.registers.byteAt Offset.led.toNat = 0 := by
  have hled : Offset.led.toNat = 6 + 19 := rfl
  rw [Registers.byteAt, bytes_restarted, List.getD_eq_getElem?_getD, hled, ← List.getElem?_drop,
    drop_initialBytes _ _ (Nat.le_refl 6), List.getElem?_replicate]
  split <;> rfl

theorem lampFollows_restarted {table : Table} (hservo : ∃ servo, table.peripheral = .servo servo) :
    table.restarted.LampFollows := by
  obtain ⟨servo, hservo⟩ := hservo
  refine ⟨{ servo with ledOn := false }, ?_, ?_⟩
  · rw [peripheral_restarted, hservo]
    rfl
  · intro _
    rw [byteAt_led_restarted]
    simp

end Table

namespace Device

open Table

/-! ## Packets -/

theorem inStep_carriedOut {device : Device} (h : device.table.InStep) (request : Request) :
    (device.carriedOut request).table.InStep :=
  carriedOut_of (P := InStep) (fun _ start count h => inStep_refreshedFrom h start count)
    (fun _ start data h => inStep_applied h start data)
    (fun table h => inStep_saved
      ⟨rateFollows_restarted table, lampFollows_restarted ⟨_, h.lamp.choose_spec.1⟩⟩) h request

theorem inStep_handled {device : Device} (hsound : device.Sound) (h : device.table.InStep)
    (packet : Packet) (status : ParseStatus) : (device.handled packet status).table.InStep := by
  rw [handled_eq hsound]
  cases device.heeded? packet status with
  | none => exact h
  | some request => exact inStep_carriedOut h request

theorem inStep_handledAll {device : Device} (hsound : device.Sound) (h : device.table.InStep)
    (reports : List (Packet × ParseStatus)) : (device.handledAll reports).table.InStep := by
  induction reports generalizing device with
  | nil => exact h
  | cons report reports ih =>
      exact ih (sound_handled hsound report.1 report.2)
        (inStep_handled hsound h report.1 report.2)

/-- A servo that can have come about, and whose line and lamp are in step with their registers,
stays so whatever packet it handles, and so it does over any run of packets. -/
theorem inStep_of_packets {device : Device} (hsound : device.Sound) (h : device.table.InStep) :
    (∀ packet status, ∃ reply? after, device.handle packet status = .ok reply? after ∧
      after.table.InStep) ∧
    ∀ reports, (device.handledAll reports).table.InStep := by
  refine ⟨?_, inStep_handledAll hsound h⟩
  intro packet status
  have hrun := handle_run hsound packet status
  have hafter := inStep_handled hsound h packet status
  rw [handled, hrun] at hafter
  exact ⟨_, _, hrun, hafter⟩

/-- A staged write begins at the id and runs across the baud register, and a write begins before the
lamp's register and runs across it. -/
theorem inStep_of_packets_across :
    let registers : Registers := {
      bytes := List.replicate 50 0
      persistentLength := 24
      length_le := by decide
      persistentLength_le := by decide }
    let table : Table := {
      registers
      peripheral := .servo {}
      storage := .memory .empty
      returnDelay_lt := by decide }
    let start : Device := { table := table.restarted }
    let reports : List (Packet × ParseStatus) := [
      (Packet.roomy.fill ⟨0⟩ Instruction.regWrite.code [Offset.id, 7, 4], .complete),
      (Packet.roomy.fill Id.broadcast Instruction.action.code [], .complete),
      (Packet.roomy.fill ⟨7⟩ Instruction.write.code [0x18, 0, 1], .complete)]
    let after := (start.handledAll reports).table
    start.Sound ∧ start.table.InStep ∧ start.table.lineRate? = some 1000000 ∧ after.InStep ∧
      after.lineRate? = some 400000 ∧ after.peripheral = .servo { ledOn := true } := by
  intro registers table start reports after
  have hordinary : table.peripheral.IsOrdinary := trivial
  have hrestarted : table.restarted.peripheral.IsOrdinary := isOrdinary_restarted hordinary
  have hsound : start.Sound := sound_of_staged?_eq_none hrestarted rfl
  have hlamp : table.restarted.LampFollows := lampFollows_restarted ⟨{}, rfl⟩
  have hstart : start.table.InStep := ⟨rateFollows_restarted table, hlamp⟩
  have hafter : after.InStep := (inStep_of_packets hsound hstart).2 reports
  refine ⟨hsound, hstart, ?_, hafter, ?_, ?_⟩
  · decide +kernel
  · decide +kernel
  · decide +kernel

end Device

end ServoBus
