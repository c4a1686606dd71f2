import Grouping.Proofs.Agreement

/-! # Columns in a run

Types are registered and replaced, columns are resolved, and what is remembered of them is forgotten, in
any order. Every answer on the way is the one that the table gives without a memo: it follows from the
definition that was registered last under the id.
-/

namespace Grouping

namespace TypeTable

theorem types_foldl_register (t : TypeTable) (definitions : List EntityType) :
    (definitions.foldl register t).types = definitions.foldl (fun m d => m.insert d.id d) t.types := by
  induction definitions generalizing t with
  | nil => rfl
  | cons d definitions ih => exact ih (t.register d)

theorem generation_foldl_register (t : TypeTable) (definitions : List EntityType) :
    (definitions.foldl register t).generation = t.generation + definitions.length := by
  induction definitions generalizing t with
  | nil => rfl
  | cons d definitions ih =>
    have hgen : (t.register d).generation = t.generation + 1 := rfl
    rw [List.foldl_cons, ih, hgen, List.length_cons]
    omega

/-- Of several definitions that are registered under one id the last one counts. -/
theorem get?_foldl_register (t : TypeTable) (definitions : List EntityType) (id : String) :
    (definitions.foldl register t).get? id =
      ((definitions.filter fun d => d.id = id).getLast?).or (t.get? id) := by
  rw [get?, types_foldl_register, OrderedMap.get?_foldl_insert EntityType.id fun d => d,
    Option.map_id']
  rfl

end TypeTable

/-- A table of types, and the memo of the columns that were resolved from it. -/
structure ColumnResolver where
  types : TypeTable
  memo : ColumnMemo

namespace ColumnResolver

inductive Request
  | register (t : EntityType)
  | resolve (type : String)
  | clear

variable {r : ColumnResolver} {types : TypeTable} {requests : List Request}

def ofTable (types : TypeTable) : ColumnResolver := ⟨types, .empty⟩

def resolve (r : ColumnResolver) (type : String) : TargetColumn × ColumnResolver :=
  let (column, memo) := r.memo.resolve r.types type
  (column, { r with memo })

def perform (r : ColumnResolver) : Request → ColumnResolver
  | .register t => { r with types := r.types.register t }
  | .resolve type => (r.resolve type).2
  | .clear => { r with memo := r.memo.clear }

def after (r : ColumnResolver) (requests : List Request) : ColumnResolver := requests.foldl perform r

/-- The columns that are answered in a run, in order. -/
def answers (r : ColumnResolver) : List Request → List TargetColumn
  | [] => []
  | .register t :: requests => (r.perform (.register t)).answers requests
  | .resolve type :: requests => (r.resolve type).1 :: (r.perform (.resolve type)).answers requests
  | .clear :: requests => (r.perform .clear).answers requests

/-- The answers in a run if nothing is ever remembered. -/
def plainAnswers (types : TypeTable) : List Request → List TargetColumn
  | [] => []
  | .register t :: requests => plainAnswers (types.register t) requests
  | .resolve type :: requests => types.columnFor type :: plainAnswers types requests
  | .clear :: requests => plainAnswers types requests

/-- The definitions that a run registers, in order. -/
def registered : List Request → List EntityType
  | [] => []
  | .register t :: requests => t :: registered requests
  | .resolve _ :: requests | .clear :: requests => registered requests

/-- The definition that was registered last under an id, in the run or in the table before it. -/
def latest? (types : TypeTable) (requests : List Request) (type : String) : Option EntityType :=
  (((registered requests).filter fun d => d.id = type).getLast?).or (types.get? type)

/-! ## What the memo is good for -/

def Faithful (r : ColumnResolver) : Prop := r.memo.Faithful r.types

theorem faithful_ofTable (types : TypeTable) : (ofTable types).Faithful where
  generation_le := Nat.zero_le _
  columns _ := OrderedMap.all_empty

theorem Faithful.perform (h : r.Faithful) (q : Request) : (r.perform q).Faithful := by
  cases q with
  | register t => exact ColumnMemo.Faithful.register h t
  | resolve type => exact ColumnMemo.Faithful.resolve h type
  | clear => exact ColumnMemo.Faithful.clear h

theorem Faithful.after (h : r.Faithful) (requests : List Request) : (r.after requests).Faithful :=
  List.foldlRecOn requests _ h fun _ h q _ => h.perform q

theorem Faithful.resolve_eq (h : r.Faithful) (type : String) :
    (r.resolve type).1 = r.types.columnFor type :=
  ColumnMemo.Faithful.resolve_eq h type

theorem Faithful.answers_eq (h : r.Faithful) (requests : List Request) :
    r.answers requests = plainAnswers r.types requests := by
  induction requests generalizing r with
  | nil => rfl
  | cons q requests ih =>
    -- what is remembered is still right when the rest of the run begins
    have hrest := ih (h.perform q)
    cases q with
    | register t => exact hrest
    | resolve type =>
      rw [answers, plainAnswers, h.resolve_eq, hrest]
      rfl
    | clear => exact hrest

/-! ## What a run registers -/

theorem types_after (r : ColumnResolver) (requests : List Request) :
    (r.after requests).types = (registered requests).foldl TypeTable.register r.types := by
  induction requests generalizing r with
  | nil => rfl
  | cons q requests ih =>
    cases q with
    | register t => exact ih _
    | resolve type => exact ih _
    | clear => exact ih _

theorem get?_types_after (types : TypeTable) (requests : List Request) (type : String) :
    ((ofTable types).after requests).types.get? type = latest? types requests type := by
  rw [types_after, TypeTable.get?_foldl_register]
  rfl

theorem generation_after (types : TypeTable) (requests : List Request) :
    ((ofTable types).after requests).types.generation =
      types.generation + (registered requests).length := by
  rw [types_after, TypeTable.generation_foldl_register]
  rfl

/-- The memo is never ahead, so the generations can only be confused once the table has passed `n`. -/
theorem generation_mod_eq_iff {n : Nat}
    (h : types.generation + (registered requests).length < n) :
    ((ofTable types).after requests).memo.generation % n =
        ((ofTable types).after requests).types.generation % n ↔
      ((ofTable types).after requests).memo.generation =
        ((ofTable types).after requests).types.generation := by
  have hle := ((faithful_ofTable types).after requests).generation_le
  rw [← generation_after] at h
  rw [Nat.mod_eq_of_lt h, Nat.mod_eq_of_lt (Nat.lt_of_le_of_lt hle h)]

/-- A run answers as if nothing were remembered. After any run a type gets the numeric column exactly if
the definition that was registered last for it has fields and serial ids. To compare generations, their
last 64 bits are enough in a run with fewer registrations than these can count. -/
theorem answers_ofTable (types : TypeTable) (requests : List Request) :
    let r := (ofTable types).after requests
    (ofTable types).answers requests = plainAnswers types requests ∧
      (∀ type, (r.resolve type).1 = .numeric ↔
        ∃ d, latest? types requests type = some d ∧ d.fieldable = true ∧ d.idKind = .serial) ∧
      (types.generation + (registered requests).length < UInt64.size →
        (r.memo.generation % UInt64.size = r.types.generation % UInt64.size ↔
          r.memo.generation = r.types.generation)) := by
  intro r
  have h := faithful_ofTable types
  refine ⟨h.answers_eq requests, fun type => ?_, generation_mod_eq_iff⟩
  rw [(h.after requests).resolve_eq, TypeTable.columnFor_eq_numeric_iff, get?_types_after]
  simp only [EntityType.hasSerialField, Bool.and_eq_true, decide_eq_true_eq]

/-- An unknown type is registered, and one that is known is replaced. -/
example : (ofTable .standard).answers [.resolve "term", .register (.content "term" "Term"),
    .resolve "term", .resolve "user", .register (.namedContent "user" "User"), .resolve "user",
    .clear, .resolve "term"] = [.name, .numeric, .numeric, .name, .numeric] := by
  decide +kernel

end ColumnResolver

end Grouping
