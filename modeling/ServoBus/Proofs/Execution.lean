import ServoBus.Proofs.RegisterRuns

/-!
# What a device makes of a request

Six instructions are asked of one device at a time. Which of them it refuses is decided by its
length (`Request.refusal?`); what it does with the others is `Device.carriedOut`. On a sound device
`Device.execute` is just this (`execute_request`), and the device stays sound (`sound_after`).
-/

namespace ServoBus

/-! ## Requests -/

/-- What one device is asked for at a time. -/
inductive Request where
  | ping
  | read (start count : UInt8)
  | write (start : UInt8) (data : Bytes)
  | regWrite (start : UInt8) (data : Bytes)
  | action
  | reset
  deriving DecidableEq

namespace Request

def instruction : Request → Instruction
  | ping => .ping
  | read .. => .read
  | write .. => .write
  | regWrite .. => .regWrite
  | action => .action
  | reset => .reset

def parameters : Request → Bytes
  | read start count => [start, count]
  | write start data | regWrite start data => start :: data
  | ping | action | reset => []

/-- Why a device with so many registers refuses a request, if it does. -/
def refusal? (length : Nat) : Request → Option StatusFlags
  | read start count =>
      if start.toNat + count.toNat ≤ length ∧ count.toNat ≤ maxParameters then none
      else some .rangeError
  | write start data | regWrite start data =>
      if data = [] then some .instructionError
      else if start.toNat + data.length ≤ length then none
      else some .rangeError
  | ping | action | reset => none

theorem ne_noError_of_refusal? {request : Request} {length : Nat} {flags : StatusFlags}
    (h : request.refusal? length = some flags) : flags ≠ .noError := by
  rintro rfl
  cases request with
  | ping | action | reset => cases h
  | read start count =>
      rw [refusal?] at h
      split at h
      · cases h
      · exact absurd (Option.some.inj h) (by decide)
  | write start data | regWrite start data =>
      rw [refusal?] at h
      split at h
      · exact absurd (Option.some.inj h) (by decide)
      · split at h
        · cases h
        · exact absurd (Option.some.inj h) (by decide)

end Request

namespace Device

/-- A device that can have come about: there is no probe behind its registers, and a write that
waits was found to fit. -/
structure Sound (device : Device) : Prop where
  ordinary : device.table.peripheral.IsOrdinary
  staged : ∀ request, device.staged? = some request →
    request.start.toNat + request.data.length ≤ device.table.length

def carriedOut (device : Device) : Request → Device
  | .ping => device
  | .read start count =>
      { device with table := device.table.refreshedFrom start.toNat count.toNat }
  | .write start data => { device with table := device.table.applied start data }
  | .regWrite start data => { device with staged? := some ⟨start, data⟩ }
  | .action =>
      match device.staged? with
      | none => device
      | some request => { table := device.table.applied request.start request.data }
  | .reset => { device with table := device.table.restarted.saved }

def asked (device : Device) : Request → Bytes
  | .read start count => slice device.table.registers.bytes start.toNat count.toNat
  | .ping | .write .. | .regWrite .. | .action | .reset => []

def after (device : Device) (request : Request) : Device :=
  match request.refusal? device.table.length with
  | none => device.carriedOut request
  | some _ => device

def answerTo (device : Device) (request : Request) : Answer :=
  match request.refusal? device.table.length with
  | none => ⟨.noError, (device.carriedOut request).asked request⟩
  | some flags => ⟨flags, []⟩

theorem onTable_run {α : Type} {action : TableM α} {device : Device} {value : α} {table : Table}
    (h : action device.table = .ok value table) :
    onTable action device = .ok value { device with table } := by
  simp [onTable, h]

theorem checkWrite_of_refusal?_eq_none {length : Nat} {start : UInt8} {data : Bytes}
    (h : (Request.write start data).refusal? length = none) :
    checkWrite length (start :: data) = .ok ⟨start, data⟩ ∧
      start.toNat + data.length ≤ length := by
  cases data with
  | nil => simp [Request.refusal?] at h
  | cons byte rest =>
      by_cases hfit : start.toNat + (rest.length + 1) ≤ length
      · simp [checkWrite, hfit]
      · simp [Request.refusal?, hfit] at h

theorem checkWrite_of_refusal?_eq_some {length : Nat} {start : UInt8} {data : Bytes}
    {flags : StatusFlags} (h : (Request.write start data).refusal? length = some flags) :
    checkWrite length (start :: data) = .error flags := by
  cases data with
  | nil => simpa [Request.refusal?, checkWrite] using h
  | cons byte rest =>
      by_cases hfit : start.toNat + (rest.length + 1) ≤ length
      · simp [Request.refusal?, hfit] at h
      · simpa [Request.refusal?, checkWrite, hfit] using h

theorem executeRead_run {table : Table} (hordinary : table.peripheral.IsOrdinary)
    (start count : UInt8) (surplus : Bytes) :
    executeRead (start :: count :: surplus) table =
      if start.toNat + count.toNat ≤ table.length ∧ count.toNat ≤ maxParameters then
        .ok ⟨.noError, slice (table.refreshedFrom start.toNat count.toNat).registers.bytes
            start.toNat count.toNat⟩
          (table.refreshedFrom start.toNat count.toNat)
      else .ok ⟨.rangeError, []⟩ table := by
  have hget : (get : TableM Table) table = .ok table table := rfl
  rw [executeRead, bind_of_ok hget]
  split
  · next hfit =>
      have hread := readFrom_run hordinary (show start.toNat + 0 + count.toNat ≤ _ from hfit.1)
      rw [bind_of_ok hread]
      rfl
  · rfl

theorem get_run (device : Device) : (get : DeviceM Device) device = .ok device device := rfl

theorem execute_read {device : Device} (hordinary : device.table.peripheral.IsOrdinary)
    (start count : UInt8) (surplus : Bytes) :
    device.execute Instruction.read.code (start :: count :: surplus) =
      .ok (some (device.answerTo (.read start count))) (device.after (.read start count)) := by
  have hread := executeRead_run hordinary start count surplus
  rw [execute, Instruction.ofByte?_code]
  dsimp only
  unfold answerTo after
  by_cases hfit : start.toNat + count.toNat ≤ device.table.length ∧ count.toNat ≤ maxParameters
  · rw [if_pos hfit] at hread
    rw [bind_of_ok (onTable_run hread)]
    simp only [Request.refusal?, if_pos hfit]
    rfl
  · rw [if_neg hfit] at hread
    rw [bind_of_ok (onTable_run hread)]
    simp only [Request.refusal?, if_neg hfit]
    rfl

theorem execute_write {device : Device} (hordinary : device.table.peripheral.IsOrdinary)
    (start : UInt8) (data : Bytes) :
    device.execute Instruction.write.code (start :: data) =
      .ok (some (device.answerTo (.write start data))) (device.after (.write start data)) := by
  rw [execute, Instruction.ofByte?_code]
  dsimp only
  rw [bind_of_ok (get_run device)]
  unfold answerTo after
  cases hrefusal : (Request.write start data).refusal? device.table.length with
  | none =>
      obtain ⟨hcheck, hfit⟩ := checkWrite_of_refusal?_eq_none hrefusal
      simp only [hcheck]
      rw [bind_of_ok (onTable_run (applyWrite_run hordinary hfit))]
      rfl
  | some flags =>
      simp only [checkWrite_of_refusal?_eq_some hrefusal]
      rfl

theorem execute_write_of_refusal?_eq_none {device : Device}
    (hordinary : device.table.peripheral.IsOrdinary) {start : UInt8} {data : Bytes}
    (h : (Request.write start data).refusal? device.table.length = none) :
    device.execute Instruction.write.code (start :: data) =
      .ok (some ⟨.noError, []⟩) (device.carriedOut (.write start data)) := by
  rw [execute_write hordinary]
  simp only [answerTo, after, h]
  rfl

theorem execute_regWrite (device : Device) (start : UInt8) (data : Bytes) :
    device.execute Instruction.regWrite.code (start :: data) =
      .ok (some (device.answerTo (.regWrite start data)))
        (device.after (.regWrite start data)) := by
  rw [execute, Instruction.ofByte?_code]
  dsimp only
  rw [bind_of_ok (get_run device)]
  -- to stage a write is refused where the write would be
  have hsame : (Request.regWrite start data).refusal? device.table.length =
      (Request.write start data).refusal? device.table.length := rfl
  unfold answerTo after
  rw [hsame]
  cases hrefusal : (Request.write start data).refusal? device.table.length with
  | none =>
      simp only [(checkWrite_of_refusal?_eq_none hrefusal).1]
      rfl
  | some flags =>
      simp only [checkWrite_of_refusal?_eq_some hrefusal]
      rfl

theorem execute_action {device : Device} (hsound : device.Sound) (surplus : Bytes) :
    device.execute Instruction.action.code surplus =
      .ok (some ⟨.noError, []⟩) (device.carriedOut .action) := by
  rw [execute, Instruction.ofByte?_code]
  dsimp only
  rw [bind_of_ok (get_run device)]
  unfold carriedOut
  cases hstaged : device.staged? with
  | none => rfl
  | some request =>
      let cleared : Device := { device with staged? := none }
      have hclear : (modify fun device => { device with staged? := none } : DeviceM Unit) device =
          .ok () cleared := rfl
      have happly : applyWrite request.start request.data cleared.table =
          .ok () (device.table.applied request.start request.data) :=
        applyWrite_run hsound.ordinary (hsound.staged request hstaged)
      dsimp only
      rw [bind_of_ok hclear, bind_of_ok (onTable_run happly)]
      rfl

theorem execute_reset {device : Device} (hordinary : device.table.peripheral.IsOrdinary)
    (surplus : Bytes) :
    device.execute Instruction.reset.code surplus =
      .ok (some ⟨.noError, []⟩) (device.carriedOut .reset) := by
  have hreset : (do Table.reset; saveTable : TableM Unit) device.table =
      .ok () device.table.restarted.saved := by
    rw [bind_of_ok (Table.reset_run hordinary)]
    exact saveTable_run device.table.restarted
  rw [execute, Instruction.ofByte?_code]
  dsimp only
  rw [bind_of_ok (onTable_run hreset)]
  rfl

/-- A sound device meets no fault: it refuses a request and stays as it is, or carries it out. -/
theorem execute_request {device : Device} (hsound : device.Sound) (request : Request) :
    device.execute request.instruction.code request.parameters =
      .ok (some (device.answerTo request)) (device.after request) := by
  cases request with
  | ping => rfl
  | read start count => exact execute_read hsound.ordinary start count []
  | write start data => exact execute_write hsound.ordinary start data
  | regWrite start data => exact execute_regWrite device start data
  | action => exact execute_action hsound []
  | reset => exact execute_reset hsound.ordinary []

theorem sound_of_staged?_eq_none {device : Device}
    (hordinary : device.table.peripheral.IsOrdinary) (hstaged : device.staged? = none) :
    device.Sound where
  ordinary := hordinary
  staged := by simp [hstaged]

theorem sound_carriedOut {device : Device} (hsound : device.Sound) {request : Request}
    (hrefusal : request.refusal? device.table.length = none) :
    (device.carriedOut request).Sound := by
  cases request with
  | ping => exact hsound
  | read start count =>
      refine ⟨?_, ?_⟩
      · simpa [carriedOut] using hsound.ordinary
      · simpa [carriedOut] using hsound.staged
  | write start data =>
      refine ⟨Table.isOrdinary_applied hsound.ordinary start data, ?_⟩
      simpa [carriedOut] using hsound.staged
  | regWrite start data =>
      refine ⟨hsound.ordinary, ?_⟩
      intro request hrequest
      cases hrequest
      exact (checkWrite_of_refusal?_eq_none hrefusal).2
  | action =>
      unfold carriedOut
      cases hstaged : device.staged? with
      | none => simpa [hstaged] using hsound
      | some request =>
          exact sound_of_staged?_eq_none
            (Table.isOrdinary_applied hsound.ordinary request.start request.data) rfl
  | reset =>
      refine ⟨?_, ?_⟩
      · simpa [carriedOut] using Table.isOrdinary_restarted hsound.ordinary
      · simpa [carriedOut] using hsound.staged

theorem sound_after {device : Device} (hsound : device.Sound) (request : Request) :
    (device.after request).Sound := by
  unfold after
  split
  · next hrefusal => exact sound_carriedOut hsound hrefusal
  · exact hsound

/-! ## The size of answers -/

theorem length_asked_read {device : Device} {start count : UInt8}
    (h : (Request.read start count).refusal? device.table.length = none) :
    ((device.carriedOut (.read start count)).asked (.read start count)).length = count.toNat := by
  rw [Request.refusal?] at h
  split at h
  · next hfit =>
      have hlength : (device.table.refreshedFrom start.toNat count.toNat).registers.bytes.length =
          device.table.length := Table.length_refreshedFrom ..
      simp only [carriedOut, asked, slice, List.length_take, List.length_drop, hlength]
      omega
  · cases h

theorem length_of_readFrom {start : UInt8} {index count : Nat} {table after : Table}
    {bytes : Bytes} (h : readFrom start index count table = .ok bytes after) :
    bytes.length = count := by
  induction count generalizing table index bytes with
  | zero =>
      cases h
      rfl
  | succ count ih =>
      obtain ⟨offset, table₁, -, h⟩ := exists_of_bind_eq_ok h
      obtain ⟨byte, table₂, -, h⟩ := exists_of_bind_eq_ok h
      obtain ⟨rest, table₃, hrest, h⟩ := exists_of_bind_eq_ok h
      cases h
      simp [ih hrest]

theorem exists_of_onTable_eq_ok {α : Type} {action : TableM α} {device after : Device} {value : α}
    (h : onTable action device = .ok value after) :
    ∃ table, action device.table = .ok value table ∧ after = { device with table } := by
  unfold onTable at h
  split at h
  · next result table hrun =>
      cases h
      exact ⟨table, hrun, rfl⟩
  · cases h

theorem length_of_executeRead {parameters : Bytes} {table after : Table} {answer : Answer}
    (h : executeRead parameters table = .ok answer after) : answer.data.length ≤ maxParameters := by
  unfold executeRead at h
  split at h
  · next start count rest =>
      obtain ⟨read, table₁, hget, h⟩ := exists_of_bind_eq_ok h
      cases hget
      split at h
      · next hfit =>
          obtain ⟨bytes, table₂, hread, h⟩ := exists_of_bind_eq_ok h
          cases h
          have hlength := length_of_readFrom hread
          dsimp only
          omega
      · cases h
        simp
  · cases h
    simp

/-! ## Where answers come from -/

section Answers

variable {command : UInt8} {parameters : Bytes} {device after : Device} {answer : Answer}

/-- An answer without parameters, which tells of an error only if nothing was done. -/
def AnswersBare (device after : Device) (answer : Answer) : Prop :=
  answer.data = [] ∧ (answer.flags = .noError ∨ after = device)

theorem answersBare_of_unknown (hcommand : Instruction.ofByte? command = none)
    (h : device.execute command parameters = .ok (some answer) after) :
    AnswersBare device after answer := by
  rw [execute, hcommand] at h
  cases h
  exact ⟨rfl, Or.inr rfl⟩

theorem answersBare_of_ping (hcommand : Instruction.ofByte? command = some .ping)
    (h : device.execute command parameters = .ok (some answer) after) :
    AnswersBare device after answer := by
  rw [execute, hcommand] at h
  cases h
  exact ⟨rfl, Or.inl rfl⟩

theorem exists_executeRead_of_read (hcommand : Instruction.ofByte? command = some .read)
    (h : device.execute command parameters = .ok (some answer) after) :
    ∃ table, executeRead parameters device.table = .ok answer table ∧
      after = { device with table } := by
  rw [execute, hcommand] at h
  obtain ⟨read, device₁, hread, h⟩ := exists_of_bind_eq_ok h
  cases h
  exact exists_of_onTable_eq_ok hread

/-- Whatever is done with a checked write, past the check there is no error any more. -/
theorem answersBare_of_checkWrite (carryOut : StagedWrite → DeviceM Unit)
    (h : (do
      match checkWrite (← get).table.length parameters with
      | .error flags => return some ⟨flags, []⟩
      | .ok request =>
          carryOut request
          return some ⟨.noError, []⟩ : DeviceM (Option Answer)) device = .ok (some answer) after) :
    AnswersBare device after answer := by
  obtain ⟨current, device₁, hget, h⟩ := exists_of_bind_eq_ok h
  cases hget
  cases hcheck : checkWrite device.table.length parameters with
  | error flags =>
      rw [hcheck] at h
      cases h
      exact ⟨rfl, Or.inr rfl⟩
  | ok request =>
      rw [hcheck] at h
      obtain ⟨-, device₂, -, h⟩ := exists_of_bind_eq_ok h
      cases h
      exact ⟨rfl, Or.inl rfl⟩

theorem answersBare_of_write (hcommand : Instruction.ofByte? command = some .write)
    (h : device.execute command parameters = .ok (some answer) after) :
    AnswersBare device after answer := by
  rw [execute, hcommand] at h
  exact answersBare_of_checkWrite (fun request => onTable (applyWrite request.start request.data)) h

theorem answersBare_of_regWrite (hcommand : Instruction.ofByte? command = some .regWrite)
    (h : device.execute command parameters = .ok (some answer) after) :
    AnswersBare device after answer := by
  rw [execute, hcommand] at h
  exact answersBare_of_checkWrite
    (fun request => modify fun device => { device with staged? := some request }) h

theorem answersBare_of_action (hcommand : Instruction.ofByte? command = some .action)
    (h : device.execute command parameters = .ok (some answer) after) :
    AnswersBare device after answer := by
  rw [execute, hcommand] at h
  obtain ⟨current, device₁, -, h⟩ := exists_of_bind_eq_ok h
  cases hstaged : current.staged? with
  | none =>
      rw [hstaged] at h
      cases h
      exact ⟨rfl, Or.inl rfl⟩
  | some request =>
      rw [hstaged] at h
      obtain ⟨-, device₂, -, h⟩ := exists_of_bind_eq_ok h
      obtain ⟨-, device₃, -, h⟩ := exists_of_bind_eq_ok h
      cases h
      exact ⟨rfl, Or.inl rfl⟩

theorem answersBare_of_reset (hcommand : Instruction.ofByte? command = some .reset)
    (h : device.execute command parameters = .ok (some answer) after) :
    AnswersBare device after answer := by
  rw [execute, hcommand] at h
  obtain ⟨-, device₁, -, h⟩ := exists_of_bind_eq_ok h
  cases h
  exact ⟨rfl, Or.inl rfl⟩

theorem no_answer_of_syncWrite (hcommand : Instruction.ofByte? command = some .syncWrite) :
    device.execute command parameters ≠ .ok (some answer) after := by
  intro h
  rw [execute, hcommand] at h
  obtain ⟨current, device₁, -, h⟩ := exists_of_bind_eq_ok h
  obtain ⟨-, device₂, -, h⟩ := exists_of_bind_eq_ok h
  cases h

/-- An answer comes from reading registers, or it is a bare one. -/
theorem answered_of_execute
    (h : device.execute command parameters = .ok (some answer) after) :
    (∃ table, executeRead parameters device.table = .ok answer table ∧
      after = { device with table }) ∨ AnswersBare device after answer := by
  cases hcommand : Instruction.ofByte? command with
  | none => exact Or.inr (answersBare_of_unknown hcommand h)
  | some instruction =>
      cases instruction with
      | ping => exact Or.inr (answersBare_of_ping hcommand h)
      | read => exact Or.inl (exists_executeRead_of_read hcommand h)
      | write => exact Or.inr (answersBare_of_write hcommand h)
      | regWrite => exact Or.inr (answersBare_of_regWrite hcommand h)
      | action => exact Or.inr (answersBare_of_action hcommand h)
      | reset => exact Or.inr (answersBare_of_reset hcommand h)
      | syncWrite => exact absurd h (no_answer_of_syncWrite hcommand)

end Answers

theorem length_of_execute {command : UInt8} {parameters : Bytes} {device after : Device}
    {answer : Answer} (h : device.execute command parameters = .ok (some answer) after) :
    answer.data.length ≤ maxParameters := by
  rcases answered_of_execute h with ⟨table, hread, -⟩ | ⟨hdata, -⟩
  · exact length_of_executeRead hread
  · rw [hdata]
    exact Nat.zero_le _

end Device

end ServoBus
