import ClaimCheck.Policy

/-!
Where a transport checks claims: every envelope that it sends or receives passes the desk. A desk
without a policy and a store lets all of them through.
-/
namespace ClaimCheck

inductive Desk (ρ τ : Type)
  | vacant
  | staffed (policy : Policy) (store : Store ρ τ)

namespace Desk

variable {ρ τ : Type}

/-- A policy and a store are of no use without each other. -/
def of : Option Policy → Option (Store ρ τ) → Except Failure (Desk ρ τ)
  | some policy, some store => .ok (.staffed policy store)
  | none, none => .ok .vacant
  | _, _ => .error (.configuration
      "Large payload policy and payload store must both be provided or both be None.")

def isStaffed : Desk ρ τ → Bool
  | .staffed _ _ => true
  | .vacant => false

/-- An envelope as it is sent. -/
def outbound (desk : Desk ρ τ) (envelope : Envelope) (signal : Option Signal) : Action ρ Envelope :=
  match desk with
  | .staffed policy store => policy.prepare (some store) (some envelope) none signal
  | .vacant => return envelope

/-- An envelope as it is handed on after it was received. -/
def inbound (desk : Desk ρ τ) (envelope : Envelope) (signal : Option Signal) : Action ρ Envelope :=
  match desk with
  | .staffed _ store => Policy.resolve (some store) (some envelope) signal
  | .vacant => return envelope

end Desk

/-- All that a transport knows of a desk: what becomes of an envelope before it is sent, and after it
was received. -/
structure Passage (ρ : Type) where
  outbound : Envelope → Option Signal → Action ρ Envelope
  inbound : Envelope → Option Signal → Action ρ Envelope

def Desk.passage {ρ τ : Type} (desk : Desk ρ τ) : Passage ρ :=
  ⟨desk.outbound, desk.inbound⟩

/-- The same passage over a larger state. -/
def Passage.on {ρ σ : Type} (part : Part σ ρ) (passage : Passage ρ) : Passage σ where
  outbound envelope signal := (passage.outbound envelope signal).on part
  inbound envelope signal := (passage.inbound envelope signal).on part

end ClaimCheck
