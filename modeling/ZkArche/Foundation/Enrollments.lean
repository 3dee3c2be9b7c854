import Mathlib.Data.List.Induction
import Mathlib.Logic.Function.Basic

namespace Foundation

structure Enrollment (ι κ ρ : Type) where
  name : ι
  key : κ
  data : ρ

namespace Enrollment

variable {ι κ ρ : Type}

structure Log (ι κ ρ : Type) where
  accepted : List Bool
  bound : ι → Option (κ × ρ)

def Log.empty : Log ι κ ρ := ⟨[], fun _ => none⟩

variable [DecidableEq ι] [DecidableEq κ] [DecidableEq ρ]

/-- A name keeps its key and its data: only a repetition of its first request is accepted. -/
def keep (log : Log ι κ ρ) (request : Enrollment ι κ ρ) : Log ι κ ρ :=
  match log.bound request.name with
  | none => ⟨log.accepted ++ [true], Function.update log.bound request.name (some (request.key, request.data))⟩
  | some (key, data) => ⟨log.accepted ++ [decide (key = request.key ∧ data = request.data)], log.bound⟩

def firstOf (requests : List (Enrollment ι κ ρ)) (name : ι) : Option (Enrollment ι κ ρ) :=
  requests.find? fun first => first.name = name

/-- Whoever repeats the key of the first request for a name repeats its data. -/
def Consistent (requests : List (Enrollment ι κ ρ)) : Prop :=
  ∀ request ∈ requests, ∀ first, firstOf requests request.name = some first →
    first.key = request.key → first.data = request.data

variable {requests : List (Enrollment ι κ ρ)} {request : Enrollment ι κ ρ}

end Enrollment

end Foundation
