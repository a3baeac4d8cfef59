import Migration.Proofs.Declaration.Precondition

/-!
# Containers in trees of preconditions

A block of preconditions is read as it is written, and nothing that is written is a container.  A
container that becomes a part of another one adds its containers to those of the other, and what the
other one holds by itself stays as it is.
-/

namespace Migration

/-! ## Preconditions as they are written -/

namespace Precondition

mutual
/-- Whether a precondition is what an element writes: the same combination of what the items of its
block write, or the check that the element declares. -/
def IsWritten (host : Host) (site : Site) : Element → Precondition → Prop
  | ⟨name, arguments, block, line⟩, .check leaf =>
      combination? name = none ∧ Check.ofElement host site ⟨name, arguments, block, line⟩ = .ok leaf
  | ⟨name, _, block, _⟩, .and children => name = "and" ∧ FillBlock host site block children
  | ⟨name, _, block, _⟩, .or children => name = "or" ∧ FillBlock host site block children
  | ⟨name, _, block, _⟩, .not children => name = "not" ∧ FillBlock host site block children
  | _, .container _ _ => False

def FillBlock (host : Host) (site : Site) : Option (List (Item Element)) → List Precondition → Prop
  | none, children => children = []
  | some items, children => AreWritten host site items children

/-- Whether preconditions are what the items of a block write, one after the other. -/
def AreWritten (host : Host) (site : Site) : List (Item Element) → List Precondition → Prop
  | [], [] => True
  | .element e :: items, child :: children =>
      IsWritten host site e child ∧ AreWritten host site items children
  | _, _ => False
end

variable {host : Host} {site : Site}

/-- A combination is what an element of its name writes. -/
theorem isWritten_combine {name : String} {combine : List Precondition → Precondition}
    {arguments : List Argument} {block : Option (List (Item Element))} {line : Nat}
    {children : List Precondition} (found : combination? name = some combine)
    (filled : FillBlock host site block children) :
    IsWritten host site ⟨name, arguments, block, line⟩ (combine children) := by
  unfold combination? at found
  split at found
  · rename_i named
    cases found
    exact ⟨named, filled⟩
  split at found
  · rename_i named
    cases found
    exact ⟨named, filled⟩
  split at found
  · rename_i named
    cases found
    exact ⟨named, filled⟩
  · cases found

mutual
theorem isWritten_ofElement : (e : Element) → {read : Precondition} →
    ofElement host site e = .ok read → IsWritten host site e read
  | ⟨name, arguments, block, line⟩, read, isRead => by
      rw [ofElement] at isRead
      split at isRead
      · rename_i leaf
        obtain ⟨check, declared, rfl⟩ := map_eq_ok.mp isRead
        exact ⟨leaf, declared⟩
      · rename_i combine combined
        split at isRead
        · cases isRead
        split at isRead
        · cases isRead
          exact isWritten_combine combined rfl
        · rename_i items
          obtain ⟨children, areRead, rfl⟩ := map_eq_ok.mp isRead
          exact isWritten_combine combined (areWritten_ofItems items areRead)

theorem areWritten_ofItems : (items : List (Item Element)) → {name : String} → {line : Nat} →
    {read : List Precondition} → ofItems host site name line items = .ok read →
      AreWritten host site items read
  | [], _, _, _, isRead => by
      cases isRead
      trivial
  | .text _ :: _, _, _, _, isRead => by cases isRead
  | .element e :: items, _, _, _, isRead => by
      obtain ⟨child, first, isRead⟩ := bind_eq_ok.mp isRead
      obtain ⟨children, rest, isRead⟩ := bind_eq_ok.mp isRead
      cases isRead
      exact ⟨isWritten_ofElement e first, areWritten_ofItems items rest⟩
end

/-! ## Containers -/

def isContainer : Precondition → Bool
  | .container _ _ => true
  | _ => false

mutual
/-- The containers in a tree from left to right, each before those inside it. -/
def containers : Precondition → List PreconditionContainer
  | .check _ => []
  | .and children => containersOf children
  | .or children => containersOf children
  | .not children => containersOf children
  | .container policy children => ⟨policy, children⟩ :: containersOf children

def containersOf : List Precondition → List PreconditionContainer
  | [] => []
  | child :: children => containers child ++ containersOf children
end

theorem containersOf_append (trees others : List Precondition) :
    containersOf (trees ++ others) = containersOf trees ++ containersOf others := by
  induction trees with
  | nil => simp [containersOf]
  | cons tree trees ih => simp [containersOf, ih]

mutual
/-- Nothing that is written is a container, at any depth. -/
theorem IsWritten.containers_eq_nil : (e : Element) → (tree : Precondition) →
    IsWritten host site e tree → tree.isContainer = false ∧ tree.containers = []
  | _, .check _, _ => ⟨rfl, by rw [containers]⟩
  | ⟨_, _, block, _⟩, .and children, written =>
      ⟨rfl, by rw [containers, containers_of_fillBlock block children written.2]⟩
  | ⟨_, _, block, _⟩, .or children, written =>
      ⟨rfl, by rw [containers, containers_of_fillBlock block children written.2]⟩
  | ⟨_, _, block, _⟩, .not children, written =>
      ⟨rfl, by rw [containers, containers_of_fillBlock block children written.2]⟩
  | ⟨_, _, _, _⟩, .container _ _, written => False.elim written

theorem containers_of_fillBlock : (block : Option (List (Item Element))) →
    (children : List Precondition) → FillBlock host site block children →
      containersOf children = []
  | none, _, filled => by rw [show _ = [] from filled, containersOf]
  | some items, children, filled => (AreWritten.containersOf_eq_nil items children filled).2

theorem AreWritten.containersOf_eq_nil : (items : List (Item Element)) →
    (trees : List Precondition) → AreWritten host site items trees →
      (∀ tree ∈ trees, tree.isContainer = false) ∧ containersOf trees = []
  | [], [], _ => ⟨by simp, by rw [containersOf]⟩
  | .element e :: items, tree :: trees, written => by
      obtain ⟨first, none⟩ := IsWritten.containers_eq_nil e tree written.1
      obtain ⟨rest, others⟩ := AreWritten.containersOf_eq_nil items trees written.2
      refine ⟨List.forall_mem_cons.mpr ⟨first, rest⟩, ?_⟩
      rw [containersOf, none, others, List.append_nil]
  | [], _ :: _, written | .text _ :: _, _, written | .element _ :: _, [], written => by
      simp [AreWritten] at written
end

end Precondition

namespace PreconditionContainer

/-- Whether a container is what a `preConditions` element writes: its policy is that of the
arguments, and what it holds is written in the block. -/
def IsWritten (host : Host) (site : Site) (e : Element) (container : PreconditionContainer) :
    Prop :=
  (∃ given, site.attributes PreconditionPolicy.schema none e = .ok given ∧
    PreconditionPolicy.ofAttributes given = .ok container.policy) ∧
  Precondition.AreWritten host site e.items container.nested

/-- A declared container is what its element writes. -/
theorem isWritten_ofElement {host : Host} {site : Site} {e : Element}
    {container : PreconditionContainer} (read : ofElement host site e = .ok container) :
    container.IsWritten host site e := by
  obtain ⟨given, called, read⟩ := bind_eq_ok.mp read
  obtain ⟨policy, isPolicy, read⟩ := bind_eq_ok.mp read
  obtain ⟨nested, areRead, read⟩ := bind_eq_ok.mp read
  cases read
  exact ⟨⟨given, called, isPolicy⟩, Precondition.areWritten_ofItems e.items areRead⟩

/-- A container without the containers that are directly in it. -/
def own (container : PreconditionContainer) : PreconditionContainer :=
  { container with nested := container.nested.filter (!·.isContainer) }

/-- A container and all that are in it, from left to right, each before those inside it. -/
def containers (container : PreconditionContainer) : List PreconditionContainer :=
  container :: Precondition.containersOf container.nested

/-- What is written has no other container than itself, and so nothing to leave out. -/
theorem IsWritten.own_containers {host : Host} {site : Site} {e : Element}
    {container : PreconditionContainer} (written : container.IsWritten host site e) :
    container.containers.map own = [container] := by
  obtain ⟨plain, none⟩ := Precondition.AreWritten.containersOf_eq_nil _ _ written.2
  have whole : container.nested.filter (!·.isContainer) = container.nested :=
    List.filter_eq_self.mpr fun tree member => by rw [plain tree member]; rfl
  rw [containers, none, List.map_singleton, own, whole]

/-- A container with some others as its last parts. -/
def extend (container : PreconditionContainer) (parts : List PreconditionContainer) :
    PreconditionContainer :=
  { container with nested := container.nested ++ parts.map asPart }

theorem add_eq_extend (container part : PreconditionContainer) :
    container.add part.asPart = container.extend [part] := rfl

theorem extend_extend (container : PreconditionContainer)
    (parts more : List PreconditionContainer) :
    (container.extend parts).extend more = container.extend (parts ++ more) := by
  simp [extend]

theorem checks_extend (container : PreconditionContainer) (parts : List PreconditionContainer) :
    (container.extend parts).checks = container.checks ++ parts.flatMap checks := by
  have inside : Precondition.checksOf (parts.map asPart) = parts.flatMap checks := by
    induction parts with
    | nil => rw [List.map_nil, Precondition.checksOf, List.flatMap_nil]
    | cons part parts ih =>
        rw [List.map_cons, Precondition.checksOf, ih, List.flatMap_cons, checks_asPart]
  rw [extend, checks, Precondition.checksOf_append, inside, checks]

/-- What a container holds by itself is not touched by what is put into it. -/
theorem own_containers_extend (container : PreconditionContainer)
    (parts : List PreconditionContainer) :
    (container.extend parts).containers.map own =
      container.containers.map own ++ parts.flatMap fun part => part.containers.map own := by
  have inside : Precondition.containersOf (parts.map asPart) = parts.flatMap containers := by
    induction parts with
    | nil => rw [List.map_nil, Precondition.containersOf, List.flatMap_nil]
    | cons part parts ih =>
        rw [List.map_cons, Precondition.containersOf, ih, List.flatMap_cons, asPart,
          Precondition.containers, containers]
  have left : (parts.map asPart).filter (!·.isContainer) = [] := by
    refine List.filter_eq_nil_iff.mpr fun tree member => ?_
    obtain ⟨part, -, rfl⟩ := List.mem_map.mp member
    simp [asPart, Precondition.isContainer]
  simp only [extend, containers, own, Precondition.containersOf_append, inside,
    List.filter_append, left, List.map_cons, List.map_append, List.map_flatMap, List.append_nil,
    List.cons_append]

end PreconditionContainer

end Migration
