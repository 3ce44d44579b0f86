import PermitPolicy.Json.Value

/-! Operators: named comparisons of a fact with a value.  An operator that does not accept a
fact is false of it, whatever the value. -/

namespace PermitPolicy
open Json
set_option autoImplicit false

structure Operator where
  name : String
  accepts : Value → Bool
  evaluate : (fact value : Value) → Bool

def Operator.holds (op : Operator) (fact value : Value) : Bool :=
  op.accepts fact && op.evaluate fact value

abbrev OperatorSet := Table Operator

namespace OperatorSet

/-- Adds an operator, in place of one of the same name. -/
def register (set : OperatorSet) (op : Operator) : OperatorSet := set.insert op.name op

def ofOperators (ops : List Operator) : OperatorSet := ops.foldl register .empty

def restrict (set : OperatorSet) (names : List String) : OperatorSet :=
  set.filterKeys names.contains

theorem get?_foldl_register (set : OperatorSet) (ops : List Operator) (name : String) :
    (ops.foldl register set).get? name =
      (ops.reverse.find? fun op => op.name = name).or (set.get? name) := by
  induction ops generalizing set with
  | nil => rfl
  | cons op ops ih =>
    rw [List.foldl_cons, ih, List.reverse_cons, List.find?_append, register, Table.get?_insert]
    by_cases h : op.name = name
    · cases ops.reverse.find? fun op => op.name = name <;> simp [h]
    · simp [h]

/-- Of the operators of one name the last one counts. -/
theorem get?_ofOperators (ops : List Operator) (name : String) :
    (ofOperators ops).get? name = ops.reverse.find? fun op => op.name = name := by
  rw [ofOperators, get?_foldl_register, Table.get?_empty, Option.or_none]

theorem get?_ofOperators_of_mem {ops : List Operator} (hn : (ops.map Operator.name).Nodup)
    {op : Operator} (h : op ∈ ops) : (ofOperators ops).get? op.name = some op := by
  obtain ⟨before, after, rfl⟩ := List.append_of_mem h
  rw [List.map_append, List.map_cons] at hn
  have hlater : after.reverse.find? (fun later => later.name = op.name) = none := by
    rw [List.find?_eq_none]
    intro later hl
    have hne : later.name ≠ op.name := by
      intro heq
      apply (List.nodup_cons.mp (List.nodup_append.mp hn).2.1).1
      rw [← heq]
      exact List.mem_map_of_mem (List.mem_reverse.mp hl)
    simpa using hne
  rw [get?_ofOperators, List.reverse_append, List.reverse_cons, List.find?_append,
    List.find?_append, hlater]
  simp

end OperatorSet
end PermitPolicy
