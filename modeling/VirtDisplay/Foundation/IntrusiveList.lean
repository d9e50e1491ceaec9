/-
# Circular lists whose links lie in their entries

A list of this kind has a head, which is a node like its entries, and every node points to
the next and to the one before. An empty list is a head that points to itself. The operations
only follow and write pointers: nothing tells them which list a node is on, or whether it is
on one at all.

`Ring` says which entries a head leads to. It holds the pointers in both directions, so the
operations can be read off it: inserting at the tail appends, and removing an entry erases it.
A ring only depends on its own nodes, which is what keeps two lists with different heads out
of each other's way.

A search through the pointers ends at the node it looks for. On a ring it never ends
otherwise, because no pointer is null.
-/

import Mathlib.Data.List.Chain
import Mathlib.Data.List.Nodup
import Mathlib.Logic.Function.Basic

universe u

/-- The pointers of all nodes. A null pointer is `none`. -/
@[ext]
structure IntrusiveLinks (Node : Type u) where
  flink : Node → Option Node
  blink : Node → Option Node

namespace IntrusiveLinks

variable {Node : Type u}

section

variable [DecidableEq Node] (l : IntrusiveLinks Node)

/-- `node->Flink = target`. -/
def setFlink (node : Node) (target : Option Node) : IntrusiveLinks Node :=
  { l with flink := Function.update l.flink node target }

/-- `node->Blink = target`. -/
def setBlink (node : Node) (target : Option Node) : IntrusiveLinks Node :=
  { l with blink := Function.update l.blink node target }

/-- `InitializeListHead`. -/
def initializeListHead (head : Node) : IntrusiveLinks Node :=
  (l.setFlink head (some head)).setBlink head (some head)

/-- `IsListEmpty`. -/
def isListEmpty (head : Node) : Bool := l.flink head = some head

/-- `InsertTailList`, unless a null pointer is followed. -/
def insertTailList (head entry : Node) : Option (IntrusiveLinks Node) := do
  let last ← l.blink head
  return (((l.setFlink entry (some head)).setBlink entry (some last)).setFlink last
    (some entry)).setBlink head (some entry)

/-- `RemoveEntryList`, unless a null pointer is followed. -/
def removeEntryList (entry : Node) : Option (IntrusiveLinks Node) := do
  let next ← l.flink entry
  let previous ← l.blink entry
  return (l.setFlink previous (some next)).setBlink next (some previous)

/-- `RemoveHeadList`, unless a null pointer is followed. -/
def removeHeadList (head : Node) : Option (Node × IntrusiveLinks Node) := do
  let entry ← l.flink head
  let next ← l.flink entry
  return (entry, (l.setFlink head (some next)).setBlink next (some head))

/-- Both pointers of a node are cleared. -/
def clear (node : Node) : IntrusiveLinks Node := (l.setFlink node none).setBlink node none

/-- The search for a node along the forward pointers: whether it was found before a null
pointer, or `none` if neither was met in so many steps. -/
def search (target : Node) : Nat → Option Node → Option Bool
  | 0, _ => none
  | _ + 1, none => some false
  | fuel + 1, some node => if node = target then some true else search target fuel (l.flink node)

end

/-- Two neighbours. -/
def Next (l : IntrusiveLinks Node) (a b : Node) : Prop := l.flink a = some b ∧ l.blink b = some a

/-- The entries that a head leads to, in order. -/
structure Ring (l : IntrusiveLinks Node) (head : Node) (entries : List Node) : Prop where
  nodup : (head :: entries).Nodup
  chain : (head :: entries ++ [head]).IsChain l.Next

/-- The pointers of a node are the same. -/
def SameAt (l l' : IntrusiveLinks Node) (node : Node) : Prop :=
  l'.flink node = l.flink node ∧ l'.blink node = l.blink node

section

variable {l l' : IntrusiveLinks Node} {head entry node : Node} {entries : List Node}

/-- A chain depends on the forward pointers of all nodes but the last, and on the backward
pointers of all but the first. -/
theorem chain_congr {nodes : List Node} (hchain : nodes.IsChain l.Next)
    (hflink : ∀ node ∈ nodes.dropLast, l'.flink node = l.flink node)
    (hblink : ∀ node ∈ nodes.tail, l'.blink node = l.blink node) : nodes.IsChain l'.Next := by
  induction nodes with
  | nil => exact .nil
  | cons a nodes ih =>
      cases nodes with
      | nil => exact .singleton a
      | cons b nodes =>
          rw [List.isChain_cons_cons] at hchain ⊢
          obtain ⟨⟨hforward, hbackward⟩, hrest⟩ := hchain
          rw [List.dropLast_cons_cons, List.forall_mem_cons] at hflink
          rw [List.tail_cons, List.forall_mem_cons] at hblink
          exact ⟨⟨hflink.1.trans hforward, hblink.1.trans hbackward⟩, ih hrest hflink.2 hblink.2⟩

/-- A ring depends on the pointers of its own nodes. -/
theorem Ring.congr (hring : l.Ring head entries)
    (hsame : ∀ node ∈ head :: entries, l.SameAt l' node) : l'.Ring head entries := by
  refine ⟨hring.nodup, chain_congr hring.chain ?_ ?_⟩
  · intro node hmem
    rw [List.dropLast_concat] at hmem
    exact (hsame node hmem).1
  · intro node hmem
    rw [List.cons_append, List.tail_cons, List.mem_append, List.mem_singleton] at hmem
    rcases hmem with hmem | rfl
    · exact (hsame node (List.mem_cons_of_mem _ hmem)).2
    · exact (hsame node List.mem_cons_self).2

/-- The forward pointer of the head. -/
theorem Ring.flink_head (hring : l.Ring head entries) :
    l.flink head = some (entries.head?.getD head) := by
  have hchain := hring.chain
  cases entries with
  | nil => exact (List.isChain_cons_cons.mp hchain).1.1
  | cons entry entries => exact (List.isChain_cons_cons.mp hchain).1.1

/-- Every node of a ring has a next one on it. -/
theorem Ring.exists_next (hring : l.Ring head entries) (hmem : node ∈ head :: entries) :
    ∃ next ∈ head :: entries, l.Next node next := by
  obtain ⟨before, after, heq⟩ := List.mem_iff_append.mp hmem
  have hchain := hring.chain
  rw [heq, List.append_assoc, List.cons_append] at hchain
  cases hafter : after ++ [head] with
  | nil => exact absurd hafter (List.append_ne_nil_of_right_ne_nil _ (List.cons_ne_nil _ _))
  | cons next rest =>
      rw [hafter, List.isChain_append_cons_cons] at hchain
      refine ⟨next, ?_, hchain.2.1⟩
      have hnext : next ∈ after ++ [head] := hafter ▸ List.mem_cons_self
      rcases List.mem_append.mp hnext with hlater | hlast
      · rw [heq]
        exact List.mem_append_right _ (List.mem_cons_of_mem _ hlater)
      · exact List.mem_singleton.mp hlast ▸ List.mem_cons_self

/-- Every node of a ring has a node of the ring before it. -/
theorem Ring.exists_previous (hring : l.Ring head entries) (hmem : node ∈ head :: entries) :
    ∃ previous ∈ head :: entries, l.Next previous node := by
  have hlater : node ∈ entries ++ [head] := by
    rcases List.mem_cons.mp hmem with rfl | hentry
    · exact List.mem_append_right _ List.mem_cons_self
    · exact List.mem_append_left _ hentry
  obtain ⟨before, after, heq⟩ := List.mem_iff_append.mp hlater
  obtain ⟨front, previous, hfront⟩ : ∃ front previous, head :: before = front ++ [previous] :=
    ⟨_, _, (List.dropLast_append_getLast (List.cons_ne_nil _ _)).symm⟩
  have hchain := hring.chain
  rw [List.cons_append, heq, ← List.cons_append, hfront, List.append_assoc, List.singleton_append,
    List.isChain_append_cons_cons] at hchain
  refine ⟨previous, ?_, hchain.2.1⟩
  have hprevious : previous ∈ head :: before := hfront ▸ List.mem_append_right _ List.mem_cons_self
  rcases List.mem_cons.mp hprevious with hfirst | hearlier
  · exact hfirst ▸ List.mem_cons_self
  · have hentries : previous ∈ entries ++ [head] := heq ▸ List.mem_append_left _ hearlier
    rcases List.mem_append.mp hentries with hentry | hlast
    · exact List.mem_cons_of_mem _ hentry
    · exact List.mem_singleton.mp hlast ▸ List.mem_cons_self

theorem Ring.isListEmpty_iff [DecidableEq Node] (hring : l.Ring head entries) :
    l.isListEmpty head = true ↔ entries = [] := by
  unfold isListEmpty
  rw [hring.flink_head, decide_eq_true_eq, Option.some.injEq]
  cases entries with
  | nil => simp
  | cons entry entries =>
      refine iff_of_false (fun heq => ?_) (List.cons_ne_nil _ _)
      have hentry : entry = head := heq
      exact (List.nodup_cons.mp hring.nodup).1 (hentry ▸ List.mem_cons_self)

/-- The pointers determine the entries. -/
theorem Ring.unique {entries' : List Node} (hring : l.Ring head entries)
    (hring' : l.Ring head entries') : entries = entries' := by
  have hpaths : ∀ (xs ys : List Node) (a : Node), (a :: xs ++ [head]).IsChain l.Next →
      (a :: ys ++ [head]).IsChain l.Next → head ∉ xs → head ∉ ys → xs = ys := by
    intro xs
    induction xs with
    | nil =>
        intro ys a hxs hys _ hhead
        cases ys with
        | nil => rfl
        | cons y ys =>
            have hforward := (List.isChain_cons_cons.mp hxs).1.1
            have hforward' := (List.isChain_cons_cons.mp hys).1.1
            rw [hforward] at hforward'
            exact absurd (Option.some.inj hforward' ▸ List.mem_cons_self) hhead
    | cons x xs ih =>
        intro ys a hxs hys hhead hhead'
        obtain ⟨hx, hxs⟩ := List.isChain_cons_cons.mp hxs
        cases ys with
        | nil =>
            have hforward := (List.isChain_cons_cons.mp hys).1.1
            rw [hx.1] at hforward
            exact absurd (Option.some.inj hforward ▸ List.mem_cons_self) hhead
        | cons y ys =>
            obtain ⟨hy, hys⟩ := List.isChain_cons_cons.mp hys
            obtain rfl := Option.some.inj (hx.1.symm.trans hy.1)
            rw [ih ys x hxs hys (fun h => hhead (List.mem_cons_of_mem _ h))
              fun h => hhead' (List.mem_cons_of_mem _ h)]
  exact hpaths entries entries' head hring.chain hring'.chain (List.nodup_cons.mp hring.nodup).1
    (List.nodup_cons.mp hring'.nodup).1

/-- Along a chain that leads to a node of a ring, and whose backward pointers are the ring's,
every node is on the ring. -/
theorem Ring.mem_of_chain {nodes : List Node} {last : Node} (hring : l'.Ring head entries)
    (hchain : (nodes ++ [last]).IsChain l.Next) (hlast : last ∈ entries)
    (hblink : ∀ node ∈ nodes ++ [last], node ≠ head ∧ l'.blink node = l.blink node) :
    ∀ node ∈ nodes ++ [last], node ∈ entries := by
  induction nodes with
  | nil =>
      intro node hmem
      rwa [List.mem_singleton.mp hmem]
  | cons a nodes ih =>
      obtain ⟨next, rest, hnodes⟩ := List.exists_cons_of_ne_nil
        (List.append_ne_nil_of_right_ne_nil nodes (List.cons_ne_nil last []))
      rw [List.cons_append, hnodes, List.isChain_cons_cons] at hchain
      have hrest := ih (hnodes ▸ hchain.2) fun node hmem =>
        hblink node (List.mem_cons_of_mem _ hmem)
      have hnext : next ∈ nodes ++ [last] := hnodes ▸ List.mem_cons_self
      obtain ⟨previous, hprevious, -, hback⟩ :=
        hring.exists_previous (List.mem_cons_of_mem _ (hrest next hnext))
      rw [(hblink next (List.mem_cons_of_mem _ hnext)).2, hchain.1.2] at hback
      have ha : a ∈ entries := (List.mem_cons.mp (Option.some.inj hback ▸ hprevious)).resolve_left
        (hblink a List.mem_cons_self).1
      intro node hmem
      rcases List.mem_cons.mp hmem with rfl | hmem
      · exact ha
      · exact hrest node hmem

/-- The nodes around an entry: the path from the head to the one before it, and the path from the
one behind it back to the head. -/
theorem Ring.exists_neighbours {entry : Node} {before after : List Node}
    (hring : l.Ring head (before ++ entry :: after)) :
    ∃ front previous next back, head :: before = front ++ [previous] ∧
      after ++ [head] = next :: back ∧ (front ++ [previous]).IsChain l.Next ∧
      l.Next previous entry ∧ l.Next entry next ∧ (next :: back).IsChain l.Next := by
  obtain ⟨front, previous, hfront⟩ : ∃ front previous, head :: before = front ++ [previous] :=
    ⟨_, _, (List.dropLast_append_getLast (List.cons_ne_nil _ _)).symm⟩
  obtain ⟨next, back, hback⟩ : ∃ next back, after ++ [head] = next :: back := by
    cases after with
    | nil => exact ⟨_, _, rfl⟩
    | cons next after => exact ⟨_, _, rfl⟩
  have hnodes : head :: (before ++ entry :: after) ++ [head] =
      front ++ previous :: entry :: next :: back := by
    rw [List.cons_append, List.append_assoc, List.cons_append, hback, ← List.cons_append, hfront,
      List.append_assoc, List.singleton_append]
  have hchain := hring.chain
  rw [hnodes, List.isChain_append_cons_cons, List.isChain_cons_cons] at hchain
  exact ⟨front, previous, next, back, hfront, hback, hchain⟩

/-- No node but the head is on both sides of an entry. -/
theorem Ring.nodup_around {entry : Node} {before after : List Node}
    (hring : l.Ring head (before ++ entry :: after)) :
    (head :: before).Nodup ∧ (after ++ [head]).Nodup ∧
      (∀ node ∈ before, node ∉ after ++ [head]) ∧ ∀ node ∈ after, node ∉ head :: before := by
  obtain ⟨hhead, hentries⟩ := List.nodup_cons.mp hring.nodup
  obtain ⟨hbefore, hafter, hapart⟩ := List.nodup_append.mp hentries
  have hheadBefore : head ∉ before := fun h => hhead (List.mem_append_left _ h)
  have hheadAfter : head ∉ after := fun h =>
    hhead (List.mem_append_right _ (List.mem_cons_of_mem _ h))
  refine ⟨List.nodup_cons.mpr ⟨hheadBefore, hbefore⟩, ?_, fun node hmem hlater => ?_,
    fun node hmem hearlier => ?_⟩
  · refine List.nodup_append.mpr ⟨(List.nodup_cons.mp hafter).2, List.nodup_singleton _, ?_⟩
    rintro a ha b hb rfl
    exact hheadAfter (List.mem_singleton.mp hb ▸ ha)
  · rcases List.mem_append.mp hlater with hlater | hlast
    · exact hapart node hmem node (List.mem_cons_of_mem _ hlater) rfl
    · exact hheadBefore (List.mem_singleton.mp hlast ▸ hmem)
  · rcases List.mem_cons.mp hearlier with hfirst | hearlier
    · exact hheadAfter (hfirst ▸ hmem)
    · exact hapart node hearlier node (List.mem_cons_of_mem _ hmem) rfl

end

section

variable [DecidableEq Node] {l l' : IntrusiveLinks Node} {head entry node : Node}
  {entries : List Node}

/-- A head that was just initialised. -/
theorem ring_initializeListHead (l : IntrusiveLinks Node) (head : Node) :
    (l.initializeListHead head).Ring head [] := by
  refine ⟨List.nodup_singleton head, List.isChain_cons_cons.mpr ⟨⟨?_, ?_⟩, .singleton head⟩⟩
  · exact Function.update_self ..
  · exact Function.update_self ..

theorem sameAt_initializeListHead (hne : node ≠ head) :
    l.SameAt (l.initializeListHead head) node :=
  ⟨Function.update_of_ne hne .., Function.update_of_ne hne ..⟩

theorem sameAt_clear (hne : node ≠ entry) : l.SameAt (l.clear entry) node :=
  ⟨Function.update_of_ne hne .., Function.update_of_ne hne ..⟩

variable (entry) in
/-- What inserting at the tail writes. -/
theorem insertTailList_eq {last : Node} (hlast : l.blink head = some last) :
    ∃ l', l.insertTailList head entry = some l' ∧
      (∀ node, l'.flink node =
        if node = last then some entry else if node = entry then some head else l.flink node) ∧
      ∀ node, l'.blink node =
        if node = head then some entry else if node = entry then some last else l.blink node := by
  rw [IntrusiveLinks.insertTailList, hlast]
  refine ⟨_, rfl, fun node => ?_, fun node => ?_⟩
  · simp only [setFlink, setBlink, Function.update_apply]
  · simp only [setFlink, setBlink, Function.update_apply]

/-- Inserting a node that is not on the ring appends it. -/
theorem Ring.insertTailList (hring : l.Ring head entries) (hnew : entry ∉ head :: entries) :
    ∃ l', l.insertTailList head entry = some l' ∧ l'.Ring head (entries ++ [entry]) ∧
      ∀ node, node ∉ entry :: head :: entries → l.SameAt l' node := by
  obtain ⟨front, last, heq⟩ : ∃ front last, head :: entries = front ++ [last] :=
    ⟨_, _, (List.dropLast_append_getLast (List.cons_ne_nil _ _)).symm⟩
  have hnodup := hring.nodup
  have hchain := hring.chain
  rw [heq] at hnodup hnew
  rw [heq, List.append_assoc, List.singleton_append, List.isChain_append_cons_cons] at hchain
  obtain ⟨hfront, ⟨-, hlast⟩, -⟩ := hchain
  have hentryLast : last ≠ entry := fun h => hnew (h ▸ List.mem_append_right _ List.mem_cons_self)
  have hentryHead : head ≠ entry := by
    rintro rfl
    exact hnew (heq ▸ List.mem_cons_self)
  have hcons : head :: (entries ++ [entry]) = front ++ [last] ++ [entry] :=
    congrArg (· ++ [entry]) heq
  rw [IntrusiveLinks.insertTailList, hlast]
  refine ⟨_, rfl, ⟨?_, ?_⟩, ?_⟩
  · rw [hcons]
    exact List.nodup_append.mpr ⟨hnodup, List.nodup_singleton _, fun a ha b hb hab =>
      hnew (List.mem_singleton.mp hb ▸ hab ▸ ha)⟩
  · rw [hcons, List.append_assoc, List.append_assoc, List.singleton_append, List.singleton_append,
      List.isChain_append_cons_cons, List.isChain_cons_cons]
    refine ⟨chain_congr hfront ?_ ?_, ⟨?_, ?_⟩, ⟨?_, ?_⟩, .singleton head⟩
    · -- neither the last entry nor the new one is in front
      intro node hmem
      rw [List.dropLast_concat] at hmem
      have hnodeLast : node ≠ last := fun h =>
        (List.nodup_append.mp hnodup).2.2 node hmem last List.mem_cons_self h
      have hnodeEntry : node ≠ entry := fun h => hnew (h ▸ List.mem_append_left _ hmem)
      exact (Function.update_of_ne hnodeLast ..).trans (Function.update_of_ne hnodeEntry ..)
    · -- the head comes first
      intro node hmem
      rw [← heq, List.tail_cons] at hmem
      have hnodeHead : node ≠ head := fun h =>
        (List.nodup_cons.mp hring.nodup).1 (h ▸ hmem)
      have hnodeEntry : node ≠ entry := fun h =>
        hnew (heq ▸ h ▸ List.mem_cons_of_mem _ hmem)
      exact (Function.update_of_ne hnodeHead ..).trans (Function.update_of_ne hnodeEntry ..)
    · exact Function.update_self ..
    · exact (Function.update_of_ne hentryHead.symm ..).trans (Function.update_self ..)
    · exact (Function.update_of_ne hentryLast.symm ..).trans (Function.update_self ..)
    · exact Function.update_self ..
  · intro node hnode
    rw [List.mem_cons, heq, not_or] at hnode
    have hnodeLast : node ≠ last := fun h =>
      hnode.2 (h ▸ List.mem_append_right _ List.mem_cons_self)
    have hnodeHead : node ≠ head := fun h => hnode.2 (heq ▸ h ▸ List.mem_cons_self)
    exact ⟨(Function.update_of_ne hnodeLast ..).trans (Function.update_of_ne hnode.1 ..),
      (Function.update_of_ne hnodeHead ..).trans (Function.update_of_ne hnode.1 ..)⟩

/-- Inserting a node that is on the ring already leaves no ring. -/
theorem Ring.insertTailList_twice (hring : l.Ring head entries) (hmem : entry ∈ entries) :
    ∃ l', l.insertTailList head entry = some l' ∧ ∀ entries', ¬ l'.Ring head entries' := by
  obtain ⟨last, hmemLast, hlast⟩ := hring.exists_previous List.mem_cons_self
  have hentryHead : entry ≠ head := fun h => (List.nodup_cons.mp hring.nodup).1 (h ▸ hmem)
  obtain ⟨l', hinsert, hforward, hbackward⟩ := insertTailList_eq entry hlast.2
  refine ⟨l', hinsert, fun entries' hring' => ?_⟩
  -- the node before the head is the one inserted, so it points to the head
  obtain ⟨final, hmemFinal, hfinal⟩ := hring'.exists_previous List.mem_cons_self
  obtain rfl : entry = final := by
    have hback := hfinal.2
    rw [hbackward, if_pos rfl] at hback
    exact Option.some.inj hback
  have hmemEntry : entry ∈ entries' := (List.mem_cons.mp hmemFinal).resolve_left hentryHead
  by_cases hself : entry = last
  · -- inserted behind itself, it points to itself
    have hflink := hfinal.1
    rw [hforward, if_pos hself] at hflink
    exact hentryHead (Option.some.inj hflink)
  · -- the nodes behind it are still led to backwards, and the first of them leads to it
    obtain ⟨before, after, rfl⟩ := List.mem_iff_append.mp hmem
    obtain ⟨hhead, hentries⟩ := List.nodup_cons.mp hring.nodup
    have hafter := (List.nodup_append.mp hentries).2.1
    have hchain := hring.chain
    rw [List.cons_append, List.append_assoc, List.cons_append, List.isChain_cons_split] at hchain
    have hnext := hchain.2
    rcases List.eq_nil_or_concat' after with rfl | ⟨front, final, rfl⟩
    · -- it would be the last one
      have hback := (List.isChain_cons_cons.mp hnext).1.2
      exact hself (Option.some.inj (hback.symm.trans hlast.2))
    rw [List.append_assoc, List.singleton_append, List.isChain_cons_append_cons_cons] at hnext
    obtain rfl : final = last := Option.some.inj (hnext.2.1.2.symm.trans hlast.2)
    have hapart : ∀ node ∈ front ++ [final], node ≠ head ∧ node ≠ entry := by
      intro node hnode
      refine ⟨fun h => hhead ?_, fun h => (List.nodup_cons.mp hafter).1 (h ▸ hnode)⟩
      exact List.mem_append_right _ (List.mem_cons_of_mem _ (h ▸ hnode))
    have hkept : ∀ node ∈ front ++ [final], node ≠ head ∧ l'.blink node = l.blink node := by
      intro node hnode
      obtain ⟨hnodeHead, hnodeEntry⟩ := hapart node hnode
      exact ⟨hnodeHead, by rw [hbackward, if_neg hnodeHead, if_neg hnodeEntry]⟩
    have hfinalMem : final ∈ entries' := by
      obtain ⟨previous, hprevious, -, hback⟩ := hring'.exists_previous hmemFinal
      rw [hbackward, if_neg hentryHead, if_pos rfl] at hback
      exact (List.mem_cons.mp (Option.some.inj hback ▸ hprevious)).resolve_left
        (hapart final (List.mem_append_right _ List.mem_cons_self)).1
    obtain ⟨first, rest, hfirst⟩ := List.exists_cons_of_ne_nil
      (List.append_ne_nil_of_right_ne_nil front (List.cons_ne_nil final []))
    have hfront := hnext.1
    rw [hfirst, List.isChain_cons_cons, ← hfirst] at hfront
    have hfirstMem : first ∈ front ++ [final] := hfirst ▸ List.mem_cons_self
    have hreached := hring'.mem_of_chain hfront.2 hfinalMem hkept first hfirstMem
    obtain ⟨previous, -, hforth, hback⟩ :=
      hring'.exists_previous (List.mem_cons_of_mem _ hreached)
    rw [(hkept first hfirstMem).2, hfront.1.2] at hback
    obtain rfl := Option.some.inj hback
    rw [hforward, if_neg hself, if_pos rfl] at hforth
    exact (hapart first hfirstMem).1 (Option.some.inj hforth).symm

/-- Removing an entry erases it. -/
theorem Ring.removeEntryList (hring : l.Ring head entries) (hmem : entry ∈ entries) :
    ∃ l', l.removeEntryList entry = some l' ∧ l'.Ring head (entries.erase entry) ∧
      ∀ node, node ∉ head :: entries → l.SameAt l' node := by
  obtain ⟨before, after, hnot, rfl, herase⟩ := List.exists_erase_eq hmem
  obtain ⟨front, previous, next, back, hfront, hback, hchainFront, hprevious, hnext, hchainBack⟩ :=
    hring.exists_neighbours
  obtain ⟨hfrontNodup, hbackNodup, hbefore, hafter⟩ := hring.nodup_around
  have hmemPrevious : previous ∈ head :: before :=
    hfront ▸ List.mem_append_right _ List.mem_cons_self
  have hmemNext : next ∈ after ++ [head] := hback ▸ List.mem_cons_self
  rw [hfront] at hfrontNodup
  rw [hback] at hbackNodup
  rw [herase, IntrusiveLinks.removeEntryList, hnext.1, hprevious.2]
  refine ⟨_, rfl, ⟨hring.nodup.sublist ?_, ?_⟩, ?_⟩
  · exact ((List.sublist_cons_self entry after).append_left before).cons_cons head
  · rw [List.cons_append, List.append_assoc, hback, ← List.cons_append, hfront, List.append_assoc,
      List.singleton_append, List.isChain_append_cons_cons]
    refine ⟨chain_congr hchainFront ?_ ?_, ⟨?_, ?_⟩, chain_congr hchainBack ?_ ?_⟩
    · intro node hnode
      rw [List.dropLast_concat] at hnode
      exact Function.update_of_ne (fun h => (List.nodup_append.mp hfrontNodup).2.2 node hnode
        previous List.mem_cons_self h) ..
    · intro node hnode
      rw [← hfront, List.tail_cons] at hnode
      exact Function.update_of_ne (fun h : node = next => hbefore node hnode (h ▸ hmemNext)) ..
    · exact Function.update_self ..
    · exact Function.update_self ..
    · intro node hnode
      rw [← hback, List.dropLast_concat] at hnode
      exact Function.update_of_ne (fun h : node = previous =>
        hafter node hnode (h ▸ hmemPrevious)) ..
    · intro node hnode
      exact Function.update_of_ne (fun h : node = next =>
        (List.nodup_cons.mp hbackNodup).1 (h ▸ hnode)) ..
  · intro node hnode
    refine ⟨Function.update_of_ne (fun h => hnode ?_) ..,
      Function.update_of_ne (fun h => hnode ?_) ..⟩
    · exact List.mem_append_left (entry :: after) (h ▸ hmemPrevious)
    · rcases List.mem_append.mp (h ▸ hmemNext) with hlater | hlast
      · exact List.mem_cons_of_mem _ (List.mem_append_right _ (List.mem_cons_of_mem _ hlater))
      · exact List.mem_singleton.mp hlast ▸ List.mem_cons_self

/-- Removing the first entry is removing that entry. -/
theorem Ring.removeHeadList {entry : Node} (hring : l.Ring head (entry :: entries)) :
    ∃ l', l.removeHeadList head = some (entry, l') ∧ l'.Ring head entries ∧
      ∀ node, node ∉ head :: entry :: entries → l.SameAt l' node := by
  obtain ⟨l', hremove, hrest, hsame⟩ := hring.removeEntryList List.mem_cons_self
  rw [List.erase_cons_head] at hrest
  refine ⟨l', ?_, hrest, hsame⟩
  obtain ⟨⟨hforward, hbackward⟩, hchain⟩ := List.isChain_cons_cons.mp hring.chain
  obtain ⟨next, hnext⟩ : ∃ next, l.flink entry = some next := by
    cases entries with
    | nil => exact ⟨_, (List.isChain_cons_cons.mp hchain).1.1⟩
    | cons next entries => exact ⟨_, (List.isChain_cons_cons.mp hchain).1.1⟩
  rw [IntrusiveLinks.removeEntryList, hnext, hbackward] at hremove
  rw [IntrusiveLinks.removeHeadList, hforward, Option.bind_eq_bind, Option.bind_some, hnext]
  exact congrArg (Option.map (entry, ·)) hremove

/-- A search that has ended does so with more fuel. -/
theorem search_le {target : Node} {found : Bool} {fuel more : Nat} {start : Option Node}
    (hle : fuel ≤ more) (hsearch : l.search target fuel start = some found) :
    l.search target more start = some found := by
  induction fuel generalizing start more with
  | zero => cases hsearch
  | succ fuel ih =>
      obtain ⟨more, rfl⟩ := Nat.exists_eq_succ_of_ne_zero (Nat.ne_zero_of_lt hle)
      cases start with
      | none => exact hsearch
      | some node =>
          rw [search] at hsearch ⊢
          split at hsearch
          next hfound => rwa [if_pos hfound]
          next hother =>
            rw [if_neg hother]
            exact ih (Nat.le_of_succ_le_succ hle) hsearch

/-- Along a chain that holds the node, the search finds it. -/
theorem search_of_mem {nodes : List Node} (hchain : nodes.IsChain l.Next) {first : Node}
    (hfirst : nodes.head? = some first) (hmem : node ∈ nodes) {fuel : Nat}
    (hfuel : nodes.length ≤ fuel) : l.search node fuel (some first) = some true := by
  induction nodes generalizing first fuel with
  | nil => cases hfirst
  | cons a nodes ih =>
      obtain rfl := Option.some.inj hfirst
      obtain ⟨fuel, rfl⟩ := Nat.exists_eq_add_of_le' (show 1 ≤ fuel from
        (Nat.succ_le_succ (Nat.zero_le _)).trans hfuel)
      rw [search]
      split
      next => rfl
      next hne =>
        cases nodes with
        | nil => exact absurd (List.mem_singleton.mp hmem).symm hne
        | cons b nodes =>
            obtain ⟨hnext, hchain⟩ := List.isChain_cons_cons.mp hchain
            rw [hnext.1]
            exact ih hchain rfl ((List.mem_cons.mp hmem).resolve_left fun h => hne h.symm)
              (Nat.le_of_succ_le_succ hfuel)

/-- A search from the head finds every entry. -/
theorem Ring.search_eq_true (hring : l.Ring head entries) (hmem : node ∈ entries) {fuel : Nat}
    (hfuel : entries.length ≤ fuel) : l.search node fuel (l.flink head) = some true := by
  cases entries with
  | nil => cases hmem
  | cons entry entries =>
      obtain ⟨hnext, hchain⟩ := List.isChain_cons_cons.mp hring.chain
      have hentries : (entry :: entries ++ [head]).IsChain l.Next := hchain
      rw [hnext.1]
      exact search_of_mem (List.isChain_append.mp hentries).1 rfl hmem hfuel

/-- A search for a node that is not on the ring goes round for ever. -/
theorem Ring.search_eq_none {target : Node} (hring : l.Ring head entries)
    (habsent : target ∉ head :: entries) (fuel : Nat) (hmem : node ∈ head :: entries) :
    l.search target fuel (some node) = none := by
  induction fuel generalizing node with
  | zero => rfl
  | succ fuel ih =>
      obtain ⟨next, hnext, hnode⟩ := hring.exists_next hmem
      rw [search, if_neg (fun h : node = target => habsent (h ▸ hmem)), hnode.1]
      exact ih hnext

end

end IntrusiveLinks
