import ServoBus.CommandLine.Options
import ServoBus.Service

/-!
# The served servo's command line

What the words of the program make of it: a service, or an early end with an exit code.
-/

namespace ServoBus.CommandLine

inductive Start where
  | serves (service : Service)
  | exits (code : Nat)

namespace Start

def rules : Rules where
  options := [⟨"listen", some 'l', .text⟩, ⟨"storage", some 's', .text⟩,
    ⟨"id", some 'i', .byte⟩, ⟨"read-timeout-ms", none, .milliseconds⟩]
  hasVersion := true

def config (parsed : Parsed) : Config :=
  let defaults : Config := {}
  { defaults with
    listenAddress := ((parsed.option? "listen").bind Value.text?).getD defaults.listenAddress
    storagePath := ((parsed.option? "storage").bind Value.text?).getD defaults.storagePath
    readTimeout := ((parsed.option? "read-timeout-ms").bind Value.number?).getD
      defaults.readTimeout }

def deviceId? (parsed : Parsed) : Option Id :=
  ((parsed.option? "id").bind Value.number?).map fun n => ⟨UInt8.ofNat n⟩

/-- Starts the program; a reserved id is refused before anything is tried. -/
def ofWords (loopback : Loopback) (words : List String) (entry : FileEntry) : Start :=
  match rules.readAll words with
  | .error stop => exits stop.exitCode
  | .ok parsed =>
      if (deviceId? parsed).any Id.isReserved then exits 2
      else
        let config := config parsed
        match Service.bind loopback config {} ⟨config.storagePath, entry⟩ with
        | .error _ => exits 1
        | .ok service => serves { service with deviceId? := deviceId? parsed }

/-- A servo that is served has usable settings, listens at the host that they name, and is not told
to have a reserved id. -/
theorem served_of_ofWords {loopback : Loopback} {words : List String} {entry : FileEntry}
    {service : Service} (h : ofWords loopback words entry = serves service) :
    service.config.validate = .ok () ∧ loopback.listen service.address.host = .ok () ∧
      service.storage = ⟨service.config.storagePath, entry⟩ ∧
      ∀ id, service.deviceId? = some id → ¬id.isReserved := by
  unfold ofWords at h
  split at h
  · cases h
  next parsed _ =>
    split at h
    · cases h
    next hreserved =>
      dsimp only at h
      split at h
      · cases h
      next bound hbound =>
        cases h
        obtain ⟨hvalid, hlisten, hconfig, hstorage⟩ := Service.usable_of_bind hbound
        refine ⟨hconfig ▸ hvalid, hlisten, hconfig ▸ hstorage, fun id hid => ?_⟩
        simpa [show deviceId? parsed = some id from hid] using hreserved

end Start

end ServoBus.CommandLine
