import Mathlib.Data.List.Perm.Basic
import Migration.Proofs.Cut
import Migration.Proofs.Failure

/-!
# The order of listings

A listing holds the cut forms of the scripts that its accessor gives and its filter accepts, each
form once, in the order of the comparator and where that has no preference in the order of code
points.  So the order in which the accessor gives them counts for nothing, nor how often it does,
and neither does what the filter says about other files.
-/

namespace Migration.Listing

/-- A listed path as it is returned. -/
def fixed (fixup : Bool) (base : String) (relative : Bool) (directory path : String) : String :=
  if isCut fixup directory then cutToPlace (place base relative directory) path else path

/-- Whether a path is the returned form of one of the listed scripts that a filter accepts. -/
def IsChosen (fixup : Bool) (base : String) (relative : Bool) (directory : String)
    (accepts : Option (String → Bool)) (listed : List String) (path : String) : Prop :=
  ∃ script ∈ listed, Path.isScript script ∧ accepts.all (· script) ∧
    fixed fixup base relative directory script = path

/-- Whether a path comes before another one: by the comparator, or by its code points if that calls
the two equal or if there is none. -/
def Precedes (compare : Option (String → String → Ordering)) (a b : String) : Prop :=
  match compare with
  | some compare => compare a b = .lt ∨ compare a b = .eq ∧ a < b
  | none => a < b

instance (compare : Option (String → String → Ordering)) : DecidableRel (Precedes compare) :=
  fun a b =>
    match compare with
    | some compare => inferInstanceAs (Decidable (compare a b = .lt ∨ compare a b = .eq ∧ a < b))
    | none => inferInstanceAs (Decidable (a < b))

/-- Whether some paths are those that are chosen, each of them once, and stand in order. -/
structure IsListing (compare : Option (String → String → Ordering)) (isChosen : String → Prop)
    (paths : List String) : Prop where
  once : paths.Nodup
  complete : ∀ path, path ∈ paths ↔ isChosen path
  inOrder : paths.Pairwise (Precedes compare)

variable {compare : Option (String → String → Ordering)} {isChosen : String → Prop}
  {paths other : List String}

/-! ## Texts in order -/

theorem mem_distinct {path : String} : path ∈ distinct paths ↔ path ∈ paths := by
  rw [distinct, NameMap.mem_keys_ofList_iff, List.map_map]
  simp [Function.comp_def]

theorem ascends_distinct (paths : List String) : (distinct paths).Pairwise (· < ·) :=
  NameMap.ascends_ofList _

theorem nodup_distinct (paths : List String) : (distinct paths).Nodup :=
  (ascends_distinct paths).imp fun less => String.ne_of_lt less

theorem precedes_asymm (oriented : ∀ compare' ∈ compare, Std.OrientedCmp compare') {a b : String}
    (before : Precedes compare a b) : ¬ Precedes compare b a := by
  cases compare with
  | none => exact String.lt_asymm before
  | some compare =>
      have := oriented compare rfl
      rintro (less | ⟨equal, later⟩)
      · rw [Precedes, @Std.OrientedCmp.eq_swap _ compare _ a b, less] at before
        simp at before
      · rw [Precedes, @Std.OrientedCmp.eq_swap _ compare _ a b, equal] at before
        simp only [Ordering.swap_eq, reduceCtorEq, true_and, false_or] at before
        exact String.lt_asymm before later

/-- There is only one way to list what is chosen. -/
theorem IsListing.eq (oriented : ∀ compare' ∈ compare, Std.OrientedCmp compare')
    (isListing : IsListing compare isChosen paths) (isOther : IsListing compare isChosen other) :
    paths = other := by
  have perm : paths.Perm other := (List.perm_ext_iff_of_nodup isListing.once isOther.once).mpr
    fun path => (isListing.complete path).trans (isOther.complete path).symm
  exact perm.eq_of_pairwise (fun a b _ _ before after =>
    absurd after (precedes_asymm oriented before)) isListing.inOrder isOther.inOrder

theorem not_sublist_swapped {a b : String} (once : paths.Nodup) (sublist : [a, b].Sublist paths) :
    ¬ [b, a].Sublist paths := by
  induction paths with
  | nil => cases sublist
  | cons first rest ih =>
      obtain ⟨notLater, once⟩ := List.nodup_cons.mp once
      rintro (⟨_, swapped⟩ | ⟨_, swapped⟩)
      · cases sublist with
        | cons _ sublist => exact ih once sublist swapped
        | cons_cons _ sublist => exact notLater (swapped.subset (by simp))
      · cases sublist with
        | cons _ sublist => exact notLater (sublist.subset (by simp))
        | cons_cons _ sublist => exact notLater (sublist.subset (by simp))

theorem sublist_or_swapped {a b : String} (isFirst : a ∈ paths) (isSecond : b ∈ paths)
    (different : a ≠ b) : [a, b].Sublist paths ∨ [b, a].Sublist paths := by
  obtain ⟨front, back, rfl⟩ := List.append_of_mem isFirst
  rcases List.mem_append.mp isSecond with inFront | behind
  · exact .inr ((List.singleton_sublist.mpr inFront).append
      (List.singleton_sublist.mpr List.mem_cons_self))
  · have inBack : b ∈ back := (List.mem_cons.mp behind).resolve_left different.symm
    exact .inl (((List.singleton_sublist.mpr inBack).cons_cons a).trans
      (List.sublist_append_right front _))

/-- A comparator puts texts in its order, and keeps the one of code points where it calls two
equal. -/
theorem inOrder_order (ordered : ∀ compare' ∈ compare, Std.TransCmp compare')
    (ascends : paths.Pairwise (· < ·)) : (order compare paths).Pairwise (Precedes compare) := by
  cases compare with
  | none => exact ascends
  | some compare =>
      have := ordered compare rfl
      have once : paths.Nodup := ascends.imp fun less => String.ne_of_lt less
      have trans (a b c : String) (ab : decide (compare a b ≠ .gt))
          (bc : decide (compare b c ≠ .gt)) : decide (compare a c ≠ .gt) := by
        simp only [decide_eq_true_eq, ne_eq, Ordering.ne_gt_iff_isLE] at ab bc ⊢
        exact Std.TransCmp.isLE_trans ab bc
      have total (a b : String) : decide (compare a b ≠ .gt) || decide (compare b a ≠ .gt) := by
        rw [@Std.OrientedCmp.eq_swap _ compare _ a b]
        cases compare b a <;> rfl
      have sorted := List.pairwise_mergeSort trans total paths
      refine List.pairwise_iff_forall_sublist.mpr fun {a b} sublist => ?_
      have le : compare a b ≠ .gt :=
        of_decide_eq_true (List.pairwise_iff_forall_sublist.mp sorted sublist)
      cases compared : compare a b with
      | lt => exact .inl compared
      | gt => exact absurd compared le
      | eq =>
          refine .inr ⟨compared, ?_⟩
          have onceSorted := (order_perm (some compare) paths).nodup_iff.mpr once
          have swapped : compare b a = .eq := Std.OrientedCmp.eq_comm.mp compared
          have isFirst : a ∈ paths := List.mem_mergeSort.mp (sublist.subset (by simp))
          have isSecond : b ∈ paths := List.mem_mergeSort.mp (sublist.subset (by simp))
          have different : a ≠ b := by simpa using onceSorted.sublist sublist
          rcases sublist_or_swapped isFirst isSecond different with kept | turned
          · exact List.pairwise_iff_forall_sublist.mp ascends kept
          · -- a stable sort would have kept the two in the order in which it found them
            exact absurd (List.pair_sublist_mergeSort trans total (by simp [swapped]) turned)
              (not_sublist_swapped onceSorted sublist)

theorem isListing_order (ordered : ∀ compare' ∈ compare, Std.TransCmp compare')
    (chosen : ∀ path, path ∈ paths ↔ isChosen path) :
    IsListing compare isChosen (order compare (distinct paths)) where
  once := (order_perm compare _).nodup_iff.mpr (nodup_distinct paths)
  complete path := (order_perm compare _).mem_iff.trans (mem_distinct.trans (chosen path))
  inOrder := inOrder_order ordered (ascends_distinct paths)

/-! ## Listings -/

variable {store : Store} {fixup relative recursive : Bool} {base directory : String}
  {options : Options} {listed : List String}

theorem admits_eq_true {path : String} :
    admits options path = true ↔ Path.isScript path ∧ options.accepts.all (· path) := by
  rw [admits, Bool.and_eq_true]
  cases options.accepts <;> rfl

theorem mem_fixed {path : String} :
    path ∈ (listed.filter (admits options)).map (fixed fixup base relative directory) ↔
      IsChosen fixup base relative directory options.accepts listed path := by
  simp only [List.mem_map, List.mem_filter, admits_eq_true, IsChosen, and_assoc]

/-- Scripts count only as members of the listing, and other files not at all. -/
theorem isChosen_congr {listed' : List String} {accepts accepts' : Option (String → Bool)}
    (same : ∀ path, Path.isScript path → (path ∈ listed' ↔ path ∈ listed))
    (alike : ∀ path ∈ listed, Path.isScript path → accepts'.all (· path) = accepts.all (· path))
    (path : String) :
    IsChosen fixup base relative directory accepts' listed' path ↔
      IsChosen fixup base relative directory accepts listed path := by
  refine exists_congr fun script => ?_
  by_cases isScript : Path.isScript script
  · rw [same script isScript]
    refine and_congr_right fun member => ?_
    rw [alike script member isScript]
  · exact iff_of_false (fun chosen => isScript chosen.2.1) fun chosen => isScript chosen.2.1

variable (fixup) in
/-- A directory is listed by what is chosen among its files, in order. -/
theorem exists_isListing
    (lists : store.files (place base relative directory) recursive = .ok listed)
    (ordered : ∀ compare ∈ options.compare, Std.TransCmp compare) :
    ∃ paths, IsListing options.compare
        (IsChosen fixup base relative directory options.accepts listed) paths ∧
      list store fixup base relative directory recursive options =
        if paths = [] ∧ options.demanded then
          .error (.resource (Path.asDirectory directory) .emptyDirectory)
        else .ok paths := by
  have cut : (if isCut fixup directory then
        (listed.filter (admits options)).map (cutToPlace (place base relative directory))
        else listed.filter (admits options)) =
      (listed.filter (admits options)).map (fixed fixup base relative directory) := by
    unfold fixed
    split
    · rfl
    · exact (List.map_id' _).symm
  refine ⟨_, isListing_order ordered fun path => mem_fixed, ?_⟩
  simp only [list, lists, bind, Except.bind, cut]
  rfl

/-- A directory is listed by what is chosen among the listed files, in order, and refused exactly if
that is nothing where something is demanded.  No other file has a say in it, nor what the filter
says about one, and the order and number of times in which files are listed do not matter. -/
theorem list_of_listed (lists : store.files (place base relative directory) recursive = .ok listed)
    (ordered : ∀ compare ∈ options.compare, Std.TransCmp compare) :
    (∀ paths, list store fixup base relative directory recursive options = .ok paths ↔
      IsListing options.compare
        (IsChosen fixup base relative directory options.accepts listed) paths ∧
      ¬ (paths = [] ∧ options.demanded)) ∧
    (∀ error, list store fixup base relative directory recursive options = .error error ↔
      (∀ path, ¬ IsChosen fixup base relative directory options.accepts listed path) ∧
      options.demanded ∧ error = .resource (Path.asDirectory directory) .emptyDirectory) ∧
    ∀ (store' : Store) (listed' : List String) (accepts' : Option (String → Bool)),
      store'.files (place base relative directory) recursive = .ok listed' →
      (∀ path, Path.isScript path → (path ∈ listed' ↔ path ∈ listed)) →
      (∀ path ∈ listed, Path.isScript path →
        accepts'.all (· path) = options.accepts.all (· path)) →
      list store' fixup base relative directory recursive { options with accepts := accepts' } =
        list store fixup base relative directory recursive options := by
  have oriented : ∀ compare ∈ options.compare, Std.OrientedCmp compare := fun compare isIt =>
    (ordered compare isIt).toOrientedCmp
  obtain ⟨paths, isListing, listing⟩ := exists_isListing fixup lists ordered
  have empty : paths = [] ↔
      ∀ path, ¬ IsChosen fixup base relative directory options.accepts listed path := by
    simp only [← isListing.complete, List.eq_nil_iff_forall_not_mem]
  refine ⟨fun other => ?_, fun error => ?_, fun store' listed' accepts' lists' same alike => ?_⟩
  · have only : IsListing options.compare
        (IsChosen fixup base relative directory options.accepts listed) other ↔ paths = other :=
      ⟨isListing.eq oriented, fun same => same ▸ isListing⟩
    rw [listing, only]
    split
    · rename_i refused
      refine iff_of_false (by simp) ?_
      rintro ⟨rfl, allowed⟩
      exact allowed refused
    · rename_i allowed
      rw [Except.ok.injEq, iff_self_and]
      rintro rfl
      exact allowed
  · rw [listing, ← empty, ← and_assoc]
    split
    · rename_i refused
      rw [Except.error.injEq, eq_comm]
      exact (and_iff_right refused).symm
    · rename_i allowed
      exact iff_of_false (by simp) fun refused => allowed refused.1
  · let options' : Options := { options with accepts := accepts' }
    have ordered' : ∀ compare ∈ options'.compare, Std.TransCmp compare := ordered
    obtain ⟨paths', isListing', listing'⟩ := exists_isListing fixup lists' ordered'
    have isSame : IsListing options.compare
        (IsChosen fixup base relative directory options.accepts listed) paths' :=
      { isListing' with
        complete := fun path => (isListing'.complete path).trans (isChosen_congr same alike path) }
    rw [listing, listing', isListing.eq oriented isSame]

/-- A directory that is found below two roots, with a file that is no script. -/
def overlapping : Store where
  read _ := .error .notFound
  list _ _ := .ok ["/srv/db/c.qcl", "/srv/db/notes.txt", "/opt/db/aa.qcl", "/srv/db/b.qcl",
    "/srv/db/d.qcl", "/opt/db/b.qcl"]
  depth := 0

/-- Shorter paths come first, and a filter leaves one out. -/
def shorterFirst : Options where
  accepts := some (· ≠ "/srv/db/d.qcl")
  compare := some (compareOn String.length)

theorem list_overlapping :
    overlapping.files "db/" true = .ok ["/srv/db/c.qcl", "/srv/db/notes.txt", "/opt/db/aa.qcl",
      "/srv/db/b.qcl", "/srv/db/d.qcl", "/opt/db/b.qcl"] ∧
    (∀ compare ∈ shorterFirst.compare, Std.TransCmp compare) ∧
    list overlapping true "" false "db" true shorterFirst =
      .ok ["db/b.qcl", "db/c.qcl", "db/aa.qcl"] := by
  have lists : overlapping.files (place "" false "db") true = .ok
      ["/srv/db/c.qcl", "/srv/db/notes.txt", "/opt/db/aa.qcl", "/srv/db/b.qcl", "/srv/db/d.qcl",
        "/opt/db/b.qcl"] := rfl
  have ordered : ∀ compare ∈ shorterFirst.compare, Std.TransCmp compare := by
    rintro _ ⟨⟩
    infer_instance
  have forms : (["/srv/db/c.qcl", "/srv/db/notes.txt", "/opt/db/aa.qcl", "/srv/db/b.qcl",
        "/srv/db/d.qcl", "/opt/db/b.qcl"].filter (admits shorterFirst)).map
          (fixed true "" false "db") =
      ["db/c.qcl", "db/aa.qcl", "db/b.qcl", "db/b.qcl"] := by decide +kernel
  have complete : ∀ path, path ∈ ["db/b.qcl", "db/c.qcl", "db/aa.qcl"] ↔
      IsChosen true "" false "db" shorterFirst.accepts ["/srv/db/c.qcl", "/srv/db/notes.txt",
        "/opt/db/aa.qcl", "/srv/db/b.qcl", "/srv/db/d.qcl", "/opt/db/b.qcl"] path := by
    intro path
    rw [← mem_fixed, forms]
    grind
  exact ⟨rfl, ordered, ((list_of_listed lists ordered).1 _).mpr
    ⟨⟨by decide, complete, by decide +kernel⟩, by decide⟩⟩

end Migration.Listing
