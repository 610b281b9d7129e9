import ServoBus.Link.Socket
import ServoBus.Main
import ServoBus.Proofs.Answering
import ServoBus.Proofs.Broadcast
import ServoBus.Proofs.Bursts
import ServoBus.Proofs.Damage
import ServoBus.Proofs.Delivery
import ServoBus.Proofs.Discovery
import ServoBus.Proofs.InStep
import ServoBus.Proofs.Interchange
import ServoBus.Proofs.Lamp
import ServoBus.Proofs.LastWritten
import ServoBus.Proofs.LineOrder
import ServoBus.Proofs.Loading
import ServoBus.Proofs.Pairing
import ServoBus.Proofs.PowerCycle
import ServoBus.Proofs.Reception
import ServoBus.Proofs.Recovery
import ServoBus.Proofs.Refusal
import ServoBus.Proofs.Resumption
import ServoBus.Proofs.Safety
import ServoBus.Proofs.Staging
import ServoBus.Proofs.Transport
import ServoBus.Proofs.Truncation
import ServoBus.Proofs.TypedAccess
import ServoBus.Proofs.WriteToMany
