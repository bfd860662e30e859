import SpatialStore.Tree.Basic

/-! Walks over valid nodes. A walk is given branches and single nodes. It takes branches from the top
down, on the right before on the left, and after them the single nodes. A node that is not valid is
passed over, but not what is below it. -/

namespace SpatialStore

structure ValidWalk (S : Type) (N : Nat) where
  /-- Branches below nodes that were visited, the next one first. -/
  pending : List (Branch S N) := []
  branches : List (Branch S N)
  nodes : List (KdNode S N)

namespace ValidWalk

variable {γ S : Type} {N : Nat}

/-- The top of the first branch that has one, the branches below it, and the branches after it. -/
def top? : List (Branch S N) → Option (KdNode S N × List (Branch S N) × List (Branch S N))
  | [] => none
  | .nil :: rest => top? rest
  | .node _ record left right :: rest => some (record, [right, left], rest)

def step? (walk : ValidWalk S N) : Option (KdNode S N × ValidWalk S N) :=
  match top? walk.pending with
  | some (record, below, rest) => some (record, { walk with pending := below ++ rest })
  | none =>
    match top? walk.branches with
    | some (record, below, rest) =>
      some (record, { walk with pending := below, branches := rest })
    | none =>
      match walk.nodes with
      | [] => none
      | record :: rest => some (record, ⟨[], [], rest⟩)

def total : List (Branch S N) → Nat
  | [] => 0
  | branch :: rest => branch.size + total rest

theorem total_append (first second : List (Branch S N)) :
    total (first ++ second) = total first + total second := by
  induction first with
  | nil => simp [total]
  | cons branch rest ih => simp [total, ih, Nat.add_assoc]

def remaining (walk : ValidWalk S N) : Nat :=
  total walk.pending + total walk.branches + walk.nodes.length

theorem total_of_top? {branches below rest : List (Branch S N)} {record : KdNode S N}
    (found : top? branches = some (record, below, rest)) :
    total branches = 1 + total below + total rest := by
  induction branches with
  | nil => simp [top?] at found
  | cons branch others ih =>
    cases branch with
    | nil =>
      rw [top?] at found
      simp [total, Branch.size, ih found]
    | node slot held left right =>
      simp only [top?, Option.some.injEq, Prod.mk.injEq] at found
      obtain ⟨_, rfl, rfl⟩ := found
      simp only [total, Branch.size]
      omega

theorem remaining_of_step? {walk next : ValidWalk S N} {record : KdNode S N}
    (visited : walk.step? = some (record, next)) : next.remaining < walk.remaining := by
  unfold step? at visited
  split at visited
  · next found =>
    simp only [Option.some.injEq, Prod.mk.injEq] at visited
    obtain ⟨_, rfl⟩ := visited
    simp only [remaining, total_of_top? found, total_append]
    omega
  · split at visited
    · next found =>
      simp only [Option.some.injEq, Prod.mk.injEq] at visited
      obtain ⟨_, rfl⟩ := visited
      simp only [remaining, total_of_top? found]
      omega
    · split at visited
      · simp at visited
      · next held rest nodes =>
        simp only [Option.some.injEq, Prod.mk.injEq] at visited
        obtain ⟨_, rfl⟩ := visited
        simp only [remaining, nodes, total, List.length_cons]
        omega

def next? (walk : ValidWalk S N) : Option (Nat × ValidWalk S N) :=
  match _visited : walk.step? with
  | none => none
  | some (record, rest) => if record.valid then some (record.dataSlot, rest) else next? rest
termination_by walk.remaining
decreasing_by exact remaining_of_step? _visited

theorem remaining_of_next? {walk rest : ValidWalk S N} {data : Nat}
    (found : walk.next? = some (data, rest)) : rest.remaining < walk.remaining := by
  fun_induction next? walk with
  | case1 => simp at found
  | case2 walk record after visited valid =>
    simp only [Option.some.injEq, Prod.mk.injEq] at found
    obtain ⟨_, rfl⟩ := found
    exact remaining_of_step? visited
  | case3 walk record after visited invalid ih =>
    exact Nat.lt_trans (ih found) (remaining_of_step? visited)

def toList (walk : ValidWalk S N) : List Nat :=
  match _found : walk.next? with
  | none => []
  | some (data, rest) => data :: rest.toList
termination_by walk.remaining
decreasing_by exact remaining_of_next? _found

end ValidWalk

namespace KdTree

variable {γ S : Type} {N : Nat} [Scalar S] [Cell γ] [Stored (KdNode S N) γ]

def walk (tree : KdTree γ S N) (nodes tops : List Nat) : Except Fault (ValidWalk S N) :=
  match (nodes ++ tops).find? fun slot => tree.len ≤ slot with
  | some slot => .error (.nodeOutOfRange slot tree.len)
  | none => .ok { branches := tops.map tree.branch, nodes := nodes.map tree.view }

def validValues (tree : KdTree γ S N) : Except Fault (List Nat) :=
  (tree.walk [] tree.root.toList).map ValidWalk.toList

end KdTree

end SpatialStore
