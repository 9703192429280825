import SensorBoard.Lookup.Basic

/-!
# Inquiries

An inquiry is a result together with the lookups that were made for it, in their order. Inquiries
are done one after the other, and the first error ends the whole.
-/

namespace SensorBoard

/-- The lookups made, in order, and what came of them. -/
structure Inquiry (ε α : Type) where
  lookups : List Lookup
  result : Except ε α

namespace Inquiry

variable {ε α β : Type}

def pure (a : α) : Inquiry ε α := ⟨[], .ok a⟩

def fail (e : ε) : Inquiry ε α := ⟨[], .error e⟩

def ask (lookup : Lookup) (answer : Except ε α) : Inquiry ε α := ⟨[lookup], answer⟩

/-- Goes on with a result, if there is one. -/
def bind (x : Inquiry ε α) (f : α → Inquiry ε β) : Inquiry ε β :=
  match x.result with
  | .error e => ⟨x.lookups, .error e⟩
  | .ok a => ⟨x.lookups ++ (f a).lookups, (f a).result⟩

/-- Inquires after every item of a list in turn. -/
def each (f : α → Inquiry ε β) : List α → Inquiry ε (List β)
  | [] => pure []
  | a :: rest => (f a).bind fun b => (each f rest).bind fun bs => pure (b :: bs)

end Inquiry

end SensorBoard
