/-
Preparing trees: checking that the nodes below some roots form a forest in which every node is owned
by the one that lists it and no id occurs twice, and giving an internal id to each node without one.
A user id that is a plain identifier serves as the internal id; the other nodes are numbered in
document order under their type names, past the ids that are taken. A rejected tree stays as it was.
-/
import Overlay.Element.Edit

namespace Overlay

/-! ## Collecting the nodes -/

/-- How many nodes of a store are not among the ones seen. -/
def unseen (s : Store) (seen : List NodeId) : Nat := ((List.range s.size).filter (· ∉ seen)).length

theorem unseen_cons_le (s : Store) (i : NodeId) (seen : List NodeId) : unseen s (i :: seen) ≤ unseen s seen := by
  unfold unseen
  refine (List.Sublist.length_le ?_)
  rw [show (List.range s.size).filter (· ∉ i :: seen) =
    ((List.range s.size).filter (· ∉ seen)).filter (· ≠ i) by
      rw [List.filter_filter]; congr 1; funext j; simp [not_or]]
  exact List.filter_sublist

theorem unseen_cons_lt (s : Store) {i : NodeId} {seen : List NodeId} (hi : i < s.size) (hs : i ∉ seen) :
    unseen s (i :: seen) < unseen s seen := by
  unfold unseen
  rw [show (List.range s.size).filter (· ∉ i :: seen) =
    ((List.range s.size).filter (· ∉ seen)).filter (· ≠ i) by
      rw [List.filter_filter]; congr 1; funext j; simp [not_or]]
  refine List.length_filter_lt_length_iff_exists.2 ⟨i, ?_, by simp⟩
  simp [hi, hs]

/-- The nodes in document order, given those still to visit, each with the node that lists it, and
those seen so far, the latest first. Every visit either ends the search or sees one node more. -/
def collect (s : Store) : List (NodeId × Option NodeId) → List NodeId → Except Violation (List NodeId)
  | [], seen => .ok seen.reverse
  | (i, lister) :: todo, seen =>
    if i ∈ seen then .error (.reachedTwice (s.node i).label)
    else if (s.node i).parent.isSome ∧ (s.node i).parent ≠ lister then
      .error (.foreignParent (s.node i).label)
    else collect s ((s.node i).children.map (·, some i) ++ todo) (i :: seen)
termination_by todo seen => (unseen s seen, todo.length)
decreasing_by
  rename_i hs _
  by_cases hi : i < s.size
  · exact Prod.Lex.left _ _ (unseen_cons_lt s hi hs)
  · rw [s.children_of_size_le (Nat.le_of_not_lt hi)]
    rcases Nat.eq_or_lt_of_le (unseen_cons_le s i seen) with h | h
    · rw [h]; exact Prod.Lex.right _ (by simp)
    · exact Prod.Lex.left _ _ h

/-! ## Ids -/

/-- Checks the user ids and the internal ids against those of earlier nodes; gives all internal ids. -/
def checkIds : List Node → List String → List String → Except Violation (List String)
  | [], _, taken => .ok taken
  | n :: ns, users, taken => do
    let users ← match n.userId with
      | none => pure users
      | some id => if id ∈ users then throw (.duplicateId .user id) else pure (id :: users)
    let taken ← match n.internalId with
      | none => pure taken
      | some id => if id ∈ taken then throw (.duplicateId .internal id) else pure (id :: taken)
    checkIds ns users taken

def isAsciiLetter (c : Char) : Bool := ('a' ≤ c && c ≤ 'z') || ('A' ≤ c && c ≤ 'Z')

/-- A letter followed by letters, digits and underscores, in ASCII. -/
def isIdentifier : List Char → Bool
  | [] => false
  | c :: cs => isAsciiLetter c && cs.all fun d => isAsciiLetter d || Token.isDigit d || d = '_'

/-- Whether a user id may serve as internal id: an identifier, perhaps with a line feed after it. -/
def isSafeId (id : String) : Bool :=
  let cs := id.toList
  isIdentifier cs || (cs.getLast? = some '\n' && isIdentifier cs.dropLast)

/-- The user ids that become internal ids, with their nodes, and the ids taken then. -/
def claimIds : List (NodeId × Node) → List String → List (NodeId × String) × List String
  | [], taken => ([], taken)
  | (i, n) :: ns, taken =>
    match n.internalId, n.userId with
    | none, some id =>
      if isSafeId id && id ∉ taken then
        let (claims, taken) := claimIds ns (id :: taken)
        ((i, id) :: claims, taken)
      else claimIds ns taken
    | _, _ => claimIds ns taken

/-- The first number from `n` on that gives an id not taken. No more numbers are passed over than
ids are taken. -/
def freeNumber (stem : String) (taken : List String) : Nat → Nat → Nat
  | 0, n => n
  | steps + 1, n => if stem ++ toString n ∈ taken then freeNumber stem taken steps (n + 1) else n

/-- The internal ids of the nodes without one, in document order, after the last number given. -/
def assignIds (claims : List (NodeId × String)) : List (NodeId × Node) → Nat → List String →
    List (NodeId × String)
  | [], _, _ => []
  | (i, n) :: ns, last, taken =>
    if n.internalId.isSome then assignIds claims ns last taken
    else match claims.lookup i with
      | some id => (i, id) :: assignIds claims ns last taken
      | none =>
        let number := freeNumber n.kind.typeName taken taken.length (last + 1)
        let id := n.kind.typeName ++ toString number
        (i, id) :: assignIds claims ns number (id :: taken)

/-! ## Preparing -/

/-- The children without a parent, each with the node that lists it. -/
def adoptions (s : Store) (nodes : List (NodeId × Node)) : List (NodeId × NodeId) :=
  nodes.flatMap fun n => n.2.children.filterMap fun c => if (s.node c).parent.isNone then some (c, n.1) else none

/-- Writes internal ids and parents. -/
def Store.install (s : Store) (ids : List (NodeId × String)) (parents : List (NodeId × NodeId)) : Store :=
  let s := ids.foldl (fun s a => s.update a.1 ({ · with internalId := some a.2 })) s
  parents.foldl (fun s a => s.update a.1 ({ · with parent := some a.2 })) s

/-- Checks the nodes below some roots and gives them internal ids. -/
def prepare (roots : List NodeId) : Edit Unit := do
  let s ← getThe Store
  let ids ← liftExcept (collect s (roots.map (·, none)) [])
  let nodes := ids.map fun i => (i, s.node i)
  let preset ← liftExcept (checkIds (nodes.map Prod.snd) [] [])
  let (claims, taken) := claimIds nodes preset
  set (s.install (assignIds claims nodes 0 taken) (adoptions s nodes))
where
  liftExcept {α : Type} (r : Except Violation α) : Edit α := ExceptT.mk (pure r)

end Overlay
