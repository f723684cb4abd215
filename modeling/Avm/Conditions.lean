import Avm.Script

/-! # The condition stack refines a stack of branch flags

    `ConditionStack` (interpreter.cpp) keeps two counters in place of the
    stack of branch conditions it stands for: the size of that stack and the
    position of its first `false`.  The stack itself is a list of flags,
    innermost branch last: `push_back` appends a flag, `pop_back` removes the
    last one and `toggle_top` negates it.  `ofList` maps a list of flags to
    the counters; each operation commutes with it, and `empty` and
    `all_true` read the list.  The source's counters are `uint32_t` with
    `NO_FALSE = UINT32_MAX` for "no false"; the model takes `Nat` and `none`,
    which is what they are while the stack holds fewer than `2^32 - 1`
    flags.
-/

namespace Avm

namespace ConditionStack

/-! ## Section 1: the abstraction -/

/-- The counters that stand for a list of branch flags, innermost last. -/
def ofList (l : List Bool) : ConditionStack := ⟨l.length, l.findIdx? (!·)⟩

theorem ofList_nil : ofList [] = init := rfl

/-- A first `false` lies inside the list. -/
theorem lt_length_of_findIdx? {l : List Bool} {p : Nat} (h : l.findIdx? (!·) = some p) :
    p < l.length :=
  (List.findIdx?_eq_some_iff_findIdx_eq.mp h).1

@[simp] theorem findIdx?_not_singleton (b : Bool) :
    [b].findIdx? (!·) = if b then none else some 0 := by
  cases b <;> rfl

/-! ## Section 2: each operation commutes with the abstraction -/

theorem push_back_ofList (l : List Bool) (b : Bool) :
    (ofList l).push_back b = ofList (l ++ [b]) := by
  simp only [ofList, push_back, List.length_append, List.length_singleton, List.findIdx?_append,
    findIdx?_not_singleton]
  cases l.findIdx? (!·) <;> cases b <;> simp

theorem pop_back_ofList (l : List Bool) (b : Bool) :
    (ofList (l ++ [b])).pop_back = ofList l := by
  simp only [ofList, pop_back, List.length_append, List.length_singleton, List.findIdx?_append,
    findIdx?_not_singleton, Nat.add_sub_cancel]
  cases h : l.findIdx? (!·) with
  | none => cases b <;> simp
  | some p =>
    have : p ≠ l.length := (lt_length_of_findIdx? h).ne
    simp only [Option.or_some, Option.some.injEq, this, if_false]

theorem toggle_top_ofList (l : List Bool) (b : Bool) :
    (ofList (l ++ [b])).toggle_top = ofList (l ++ [!b]) := by
  simp only [ofList, toggle_top, List.length_append, List.length_singleton, List.findIdx?_append,
    findIdx?_not_singleton, Nat.add_sub_cancel]
  cases h : l.findIdx? (!·) with
  | none => cases b <;> simp
  | some p =>
    have : p ≠ l.length := (lt_length_of_findIdx? h).ne
    simp only [Option.or_some, this, if_false]

/-! ## Section 3: the observations read the list -/

@[simp] theorem empty_ofList (l : List Bool) : (ofList l).empty = l.isEmpty := by
  cases l <;> rfl

@[simp] theorem all_true_ofList (l : List Bool) : (ofList l).all_true = l.all id := by
  rw [all_true, ofList, List.findIdx?_isNone]
  congr; funext b; cases b <;> rfl

end ConditionStack

/-! ## Section 4: sequences of calls -/

/-- A call on the condition stack. -/
inductive CondOp
  | push_back (b : Bool)
  | pop_back
  | toggle_top
  deriving DecidableEq, Repr

namespace CondOp

open ConditionStack

/-- The call on the counters. -/
def apply : CondOp → ConditionStack → ConditionStack
  | push_back b, s => s.push_back b
  | pop_back, s => s.pop_back
  | toggle_top, s => s.toggle_top

/-- The call on the list of flags: push appends the flag, pop removes the
    last flag and toggle negates it. -/
def applyList : CondOp → List Bool → List Bool
  | push_back b, l => l ++ [b]
  | pop_back, l => l.dropLast
  | toggle_top, l => l.dropLast ++ (l.getLast?.map (!·)).toList

/-- Whether the call may be made on the list: pop and toggle need a flag. -/
def allowed : CondOp → List Bool → Bool
  | push_back _, _ => true
  | _, l => !l.isEmpty

/-- The same guard on the counters, as `EvalScript` checks it. -/
def allowedOn : CondOp → ConditionStack → Bool
  | push_back _, _ => true
  | _, s => !s.empty

/-- Every call of the sequence is allowed on the list it is made on. -/
def valid : List CondOp → List Bool → Bool
  | [], _ => true
  | o :: os, l => o.allowed l && valid os (o.applyList l)

/-- The counters after a sequence of calls. -/
def run (os : List CondOp) (s : ConditionStack) : ConditionStack :=
  os.foldl (fun s o => o.apply s) s

/-- The list after a sequence of calls. -/
def runList (os : List CondOp) (l : List Bool) : List Bool :=
  os.foldl (fun l o => o.applyList l) l

theorem allowedOn_ofList (o : CondOp) (l : List Bool) :
    o.allowedOn (ofList l) = o.allowed l := by
  cases o <;> simp only [allowedOn, allowed, empty_ofList]

/-- One allowed call commutes with the abstraction. -/
theorem apply_ofList {o : CondOp} {l : List Bool} (h : o.allowed l) :
    o.apply (ofList l) = ofList (o.applyList l) := by
  cases o with
  | push_back b => exact push_back_ofList l b
  | pop_back | toggle_top =>
    obtain ⟨l, b, rfl⟩ := l.eq_nil_or_concat.resolve_left (by rintro rfl; cases h)
    simp only [List.concat_eq_append, apply, applyList, List.dropLast_concat,
      List.getLast?_concat, Option.map_some', Option.toList_some]
    first | exact pop_back_ofList l b | exact toggle_top_ofList l b

/-- A run of allowed calls commutes with the abstraction. -/
theorem run_ofList {os : List CondOp} {l : List Bool} (h : valid os l) :
    run os (ofList l) = ofList (runList os l) := by
  induction os generalizing l with
  | nil => rfl
  | cons o os ih =>
    simp only [valid, Bool.and_eq_true] at h
    show run os (o.apply (ofList l)) = _
    rw [apply_ofList h.1]
    exact ih h.2

theorem valid_take {os : List CondOp} {l : List Bool} (h : valid os l) (k : Nat) :
    valid (os.take k) l := by
  induction os generalizing l k with
  | nil => simp only [List.take_nil, valid]
  | cons o os ih =>
    simp only [valid, Bool.and_eq_true] at h
    cases k with
    | zero => rfl
    | succ k => simp only [List.take_succ_cons, valid, h.1, ih h.2, Bool.and_self]

end CondOp

end Avm
