import FtpIntake.Tree
import Mathlib.Data.Multiset.Basic

/-!
# Sessions in separate parts of the tree

Several sessions work on one tree, and their requests come in any order. If no session names a path that is at, above or
below a path that another session names, then none of them can tell that the others are there, and the order does not
matter to the tree either.

A request reads and changes directories that it does not name: a removal takes everything below the path, and a listing
shows what is directly inside. What carries the argument is therefore the *region* of a session, all paths that are at,
above or below a path it names.

* **`Tree.region_serve_of_apart`** is a request of somebody else: it leaves the region alone.
* **`Tree.serve_congr`** is a request of the session itself: its answer and the region afterwards are told by the
  region.
* **`Tree.serveAll_eq_serveEach`** puts them together by induction on the requests: among all the others a session gets
  the answers that it gets by itself.
* **`Tree.serveAll_interleaving`** is what follows for two sessions, in any order and one after the other.

Being apart is stronger than having different names: a session that lists a directory sees what others make in it. The
number of sessions is arbitrary in all lemmas but the last, which is about two of them one after the other.
-/

namespace FtpIntake

/-! ## Paths that are apart

Two sessions do not meet if the paths that they name are apart. What has to be known of this is that it goes down: a
path below one of them is apart from the other as well, since two paths above a third one stand above each other. -/

namespace Path

/-- The paths are different, and neither is above the other. -/
def Apart (p q : Path) : Prop :=
  p ≠ q ∧ p.isAncestorOf q = false ∧ q.isAncestorOf p = false

instance (p q : Path) : Decidable (p.Apart q) :=
  inferInstanceAs (Decidable (p ≠ q ∧ p.isAncestorOf q = false ∧ q.isAncestorOf p = false))

theorem Apart.symm {p q : Path} (h : p.Apart q) : q.Apart p :=
  ⟨h.1.symm, h.2.2, h.2.1⟩

/-- A path whose names begin another one's is that path, or stands above it. -/
theorem prefix_iff {p q : Path} : p.names <+: q.names ↔ p = q ∨ p.isAncestorOf q = true := by
  unfold isAncestorOf
  split
  · next hroot =>
    rw [isRoot_iff] at hroot
    subst hroot
    by_cases hq : q = root
    · simp [hq]
    · have hsome : q.isRoot = false := by
        rw [Bool.eq_false_iff]
        exact fun h => hq (isRoot_iff.1 h)
      simp [root, hsome]
  · rw [List.isPrefixOf_iff_prefix]
    refine ⟨.inr, ?_⟩
    rintro (rfl | h)
    · exact List.prefix_rfl
    · exact h

/-- Of two paths that are apart, the names of neither begin with those of the other. -/
theorem apart_iff {p q : Path} : p.Apart q ↔ ¬p.names <+: q.names ∧ ¬q.names <+: p.names := by
  rw [prefix_iff, prefix_iff, not_or, not_or, Bool.not_eq_true, Bool.not_eq_true]
  constructor
  · rintro ⟨hne, hpq, hqp⟩
    exact ⟨⟨hne, hpq⟩, hne.symm, hqp⟩
  · rintro ⟨⟨hne, hpq⟩, -, hqp⟩
    exact ⟨hne, hpq, hqp⟩

/-- No path is apart from itself, so what a session names is always in its region. -/
theorem not_apart_self (p : Path) : ¬p.Apart p :=
  fun h => h.1 rfl

/-- What is apart from a path is apart from everything below it: two paths that lead to the same one from above cannot
be apart. -/
theorem Apart.of_isAncestorOf {p q c : Path} (h : p.Apart q) (hbelow : q.isAncestorOf c = true) : p.Apart c := by
  obtain ⟨hpq, hqp⟩ := apart_iff.1 h
  have hqc : q.names <+: c.names := prefix_iff.2 (.inr hbelow)
  refine apart_iff.2 ⟨fun hpc => ?_, fun hcp => hqp (hqc.trans hcp)⟩
  rcases List.prefix_or_prefix_of_prefix hpc hqc with hle | hle
  · exact hpq hle
  · exact hqp hle

/-- A path is not apart from what is directly inside it. -/
theorem not_apart_of_parent? {p q : Path} (h : q.parent? = some p) : ¬p.Apart q := by
  unfold parent? at h
  split at h
  · cases h
  · cases h
    exact fun hapart => (apart_iff.1 hapart).1 (List.dropLast_prefix _)

end Path

/-! ## Requests and answers

The requests of several sessions are one list, in which each request is marked with the session that it comes from,
and so are the answers. An interleaving is such a list, and what a session sees of it is what carries its mark. -/

/-- What a session asks of a tree. -/
inductive TreeRequest where
  | create (p : Path)
  | contains (p : Path)
  | delete (p : Path)
  | children (p : Path)
  deriving DecidableEq

/-- What a tree answers. A listing names directories in no particular order. -/
inductive TreeAnswer where
  | told (b : Bool)
  | listed (directories : Multiset Path)
  deriving DecidableEq

/-- The path that a request names. -/
def TreeRequest.path : TreeRequest → Path
  | .create p | .contains p | .delete p | .children p => p

variable {ι α : Type}

namespace Tree

/-- The answer to a request, and the tree afterwards. -/
def serve (t : Tree) : TreeRequest → TreeAnswer × Tree
  | .create p => (.told (t.create p).1, (t.create p).2)
  | .contains p => (.told (t.contains p), t)
  | .delete p => (.told (t.delete p).1, (t.delete p).2)
  | .children p => (.listed (t.children p), t)

/-- The answers to the requests of one session that is by itself, and the tree afterwards. -/
def serveEach (t : Tree) : List TreeRequest → List TreeAnswer × Tree
  | [] => ([], t)
  | r :: rest => ((t.serve r).1 :: ((t.serve r).2.serveEach rest).1, ((t.serve r).2.serveEach rest).2)

/-- The answers to the requests of several sessions in the order in which they come, and the tree afterwards. Requests
and answers are marked with their session. -/
def serveAll (t : Tree) : List (ι × TreeRequest) → List (ι × TreeAnswer) × Tree
  | [] => ([], t)
  | (i, r) :: rest =>
    ((i, (t.serve r).1) :: ((t.serve r).2.serveAll rest).1, ((t.serve r).2.serveAll rest).2)

end Tree

variable [DecidableEq ι]

/-- What is marked with a session, in order. -/
def markedBy (i : ι) (items : List (ι × α)) : List α :=
  items.filterMap fun item => if item.1 = i then some item.2 else none

/-- What a session is given first it gets first. -/
theorem markedBy_cons_self (i : ι) (a : α) (items : List (ι × α)) :
    markedBy i ((i, a) :: items) = a :: markedBy i items := by
  simp [markedBy]

/-- What others are given it does not see. -/
theorem markedBy_cons_ne {i j : ι} (h : j ≠ i) (a : α) (items : List (ι × α)) :
    markedBy i ((j, a) :: items) = markedBy i items := by
  simp [markedBy, h]

theorem mem_markedBy {i : ι} {a : α} {items : List (ι × α)} : a ∈ markedBy i items ↔ (i, a) ∈ items := by
  unfold markedBy
  rw [List.mem_filterMap]
  constructor
  · rintro ⟨⟨j, b⟩, hmem, hsome⟩
    obtain ⟨rfl, hb⟩ := Option.ite_none_right_eq_some.1 hsome
    exact Option.some.inj hb ▸ hmem
  · exact fun hmem => ⟨(i, a), hmem, if_pos rfl⟩

theorem markedBy_append (i : ι) (items items' : List (ι × α)) :
    markedBy i (items ++ items') = markedBy i items ++ markedBy i items' :=
  List.filterMap_append

theorem markedBy_map_self (i : ι) (as : List α) : markedBy i (as.map (i, ·)) = as := by
  induction as with
  | nil => rfl
  | cons a as ih => rw [List.map_cons, markedBy_cons_self, ih]

theorem markedBy_map_ne {i j : ι} (h : j ≠ i) (as : List α) : markedBy i (as.map (j, ·)) = [] := by
  induction as with
  | nil => rfl
  | cons a as ih => rw [List.map_cons, markedBy_cons_ne h, ih]

/-- Two sessions one after the other: each gets its own. -/
theorem markedBy_map_append {i j : ι} (h : j ≠ i) (as bs : List α) :
    markedBy i (as.map (i, ·) ++ bs.map (j, ·)) = as ∧ markedBy j (as.map (i, ·) ++ bs.map (j, ·)) = bs := by
  constructor
  · rw [markedBy_append, markedBy_map_self, markedBy_map_ne h, List.append_nil]
  · rw [markedBy_append, markedBy_map_self, markedBy_map_ne h.symm, List.nil_append]

/-! ## Regions

The region of a session is all of the tree that it can have to do with: the paths that it names, what is below them,
and the paths above, of which it can tell whether they exist. The argument has two halves, a request of somebody else
and a request of the session itself. -/

namespace Tree

/-- A path that is at, above or below one that the requests name. -/
def Near (requests : List TreeRequest) (c : Path) : Prop :=
  ∃ r ∈ requests, ¬r.path.Apart c

instance (requests : List TreeRequest) (c : Path) : Decidable (Near requests c) :=
  inferInstanceAs (Decidable (∃ r ∈ requests, ¬r.path.Apart c))

/-- The part of the tree that is near the paths that the requests name. -/
def region (t : Tree) (requests : List TreeRequest) : List Path :=
  t.directories.filter fun c => Near requests c

variable {t t' : Tree} {requests : List TreeRequest}

/-- The region is a part of the tree: what of it is near to a path that the session names. -/
theorem mem_region {c : Path} : c ∈ t.region requests ↔ c ∈ t ∧ Near requests c := by
  simp [region, mem_def]

/-! ### A request of somebody else

It makes or removes paths at or below its own path only, and these are apart from everything that the session names. -/

/-- **A request leaves every region alone whose paths are apart from its own**: what it makes or takes away is not
near them. -/
theorem region_serve_of_apart {r : TreeRequest} (h : ∀ a ∈ requests, a.path.Apart r.path) :
    (t.serve r).2.region requests = t.region requests := by
  cases r with
  | create p =>
    have hfar : ¬Near requests p := fun ⟨a, ha, hnear⟩ => hnear (h a ha)
    show (t.create p).2.region requests = _
    unfold create
    split
    · rfl
    · exact List.filter_cons_of_neg (by simpa using hfar)
  | delete p =>
    show (t.delete p).2.region requests = _
    unfold delete
    split
    · rfl
    · refine List.filter_filter.trans (List.filter_congr fun c _ => ?_)
      -- below a path that is apart from all of the session there is nothing of its region
      have hkept : Near requests c → p.isAncestorOf c = false := by
        rintro ⟨a, ha, hnear⟩
        rw [Bool.eq_false_iff]
        exact fun hbelow => hnear ((h a ha).of_isAncestorOf hbelow)
      by_cases hnear : Near requests c
      · simp [hnear, hkept hnear]
      · simp [hnear]
  | contains p => rfl
  | children p => rfl

/-- A path that is apart from the one that a request names exists after it just if it did before. -/
theorem mem_serve_of_apart {r : TreeRequest} {p : Path} (h : r.path.Apart p) : p ∈ (t.serve r).2 ↔ p ∈ t := by
  have hregion : (t.serve r).2.region [.contains p] = t.region [.contains p] :=
    region_serve_of_apart (by simpa [TreeRequest.path] using h.symm)
  have hnear : Near [.contains p] p := ⟨.contains p, List.mem_singleton_self _, p.not_apart_self⟩
  simpa [mem_region, hnear] using congrArg (p ∈ ·) hregion

/-! ### A request of the session itself

It is answered by what is in the region alone, so it is answered alike in any two trees that have the same one, and
they still have the same one afterwards. -/

/-- Trees with the same region agree on whether a path in it exists. -/
theorem mem_congr_of_near (hregion : t.region requests = t'.region requests) {c : Path} (hnear : Near requests c) :
    c ∈ t ↔ c ∈ t' := by
  have h := congrArg (c ∈ ·) hregion
  simpa [mem_region, hnear] using h

/-- Making a directory near the region puts it into the region, if it is new. -/
theorem region_create {p : Path} (hnear : Near requests p) :
    (t.create p).2.region requests = if p ∈ t then t.region requests else p :: t.region requests := by
  unfold create
  by_cases h : p ∈ t
  · rw [dif_pos (mem_def.1 h), if_pos h]
  · rw [dif_neg (fun hm => h (mem_def.2 hm)), if_neg h]
    exact List.filter_cons_of_pos (by simpa using hnear)

/-- Removing a directory takes from the region what is below it. -/
theorem region_delete {p : Path} :
    (t.delete p).2.region requests =
      if p.isRoot || !t.contains p then t.region requests
      else (t.region requests).filter fun q => !p.isAncestorOf q := by
  unfold delete
  split
  · rfl
  · exact List.filter_comm ..

/-- What is directly inside a path of the region is in the region. -/
theorem children_eq_region {p : Path} (hnear : ∃ r ∈ requests, r.path = p) :
    t.children p =
      if t.contains p then (t.region requests).filter fun q => q.depth == p.depth + 1 && q.parent? == some p
      else [] := by
  obtain ⟨r, hr, rfl⟩ := hnear
  unfold children region
  split
  · rw [List.filter_filter]
    refine List.filter_congr fun q _ => ?_
    by_cases hparent : q.parent? = some r.path
    · have hq : Near requests q := ⟨r, hr, Path.not_apart_of_parent? hparent⟩
      simp [hq]
    · simp [hparent]
  · rfl

/-- **A session cannot tell trees with the same region apart**, and its requests do the same to it. -/
theorem serve_congr (hregion : t.region requests = t'.region requests) {r : TreeRequest} (hr : r ∈ requests) :
    (t.serve r).1 = (t'.serve r).1 ∧ (t.serve r).2.region requests = (t'.serve r).2.region requests := by
  have hmem : r.path ∈ t ↔ r.path ∈ t' := mem_congr_of_near hregion ⟨r, hr, r.path.not_apart_self⟩
  have hcontains : t.contains r.path = t'.contains r.path := decide_eq_decide.2 hmem
  cases r with
  | create p =>
    have hnear : Near requests p := ⟨_, hr, p.not_apart_self⟩
    have hmem : p ∈ t ↔ p ∈ t' := hmem
    have hnew : (t.create p).1 = (t'.create p).1 := by
      rw [Bool.eq_iff_iff, create_fst, create_fst, hmem]
    refine ⟨congrArg TreeAnswer.told hnew, ?_⟩
    show (t.create p).2.region requests = (t'.create p).2.region requests
    -- whether the path is new is the same in both trees, and it is in the region
    rw [region_create hnear, region_create hnear, hregion]
    simp only [hmem]
  | contains p => exact ⟨congrArg TreeAnswer.told hcontains, hregion⟩
  | delete p =>
    have hdone : (t.delete p).1 = (t'.delete p).1 := by
      rw [Bool.eq_iff_iff, delete_fst, delete_fst]
      exact and_congr_right' hmem
    refine ⟨congrArg TreeAnswer.told hdone, ?_⟩
    show (t.delete p).2.region requests = (t'.delete p).2.region requests
    have hcontains : t.contains p = t'.contains p := hcontains
    rw [region_delete, region_delete, hregion, hcontains]
  | children p =>
    refine ⟨?_, hregion⟩
    show TreeAnswer.listed (t.children p) = .listed (t'.children p)
    have hcontains : t.contains p = t'.contains p := hcontains
    -- a directory and all that is directly inside it are in the region of whoever names it
    rw [children_eq_region (p := p) ⟨_, hr, rfl⟩, children_eq_region (p := p) ⟨_, hr, rfl⟩, hregion, hcontains]

/-! ## Whole sessions

Along the list the region of a session goes through the same states as if the session were alone. Induction on the
list: a request of another session falls under the first half, one of its own under the second. -/

/-- **Among the others a session gets the answers that it gets by itself**, and leaves the same behind in its region.
Induction on the requests: those of the others do not reach the region, and its own do not look outside it. -/
theorem serveAll_eq_serveEach {i : ι} {mixed : List (ι × TreeRequest)} (hown : ∀ r ∈ markedBy i mixed, r ∈ requests)
    (hothers : ∀ entry ∈ mixed, entry.1 ≠ i → ∀ a ∈ requests, a.path.Apart entry.2.path)
    (hregion : t.region requests = t'.region requests) :
    markedBy i (t.serveAll mixed).1 = (t'.serveEach (markedBy i mixed)).1 ∧
      (t.serveAll mixed).2.region requests = (t'.serveEach (markedBy i mixed)).2.region requests := by
  induction mixed generalizing t t' with
  | nil => exact ⟨rfl, hregion⟩
  | cons entry rest ih =>
    obtain ⟨j, r⟩ := entry
    have hothersRest : ∀ entry ∈ rest, entry.1 ≠ i → ∀ a ∈ requests, a.path.Apart entry.2.path :=
      fun entry hentry => hothers entry (List.mem_cons_of_mem _ hentry)
    simp only [serveAll]
    -- a request of the session itself goes by the region; one of somebody else leaves it alone
    by_cases hj : j = i
    · subst hj
      rw [markedBy_cons_self] at hown ⊢
      rw [markedBy_cons_self]
      obtain ⟨hr, hrest⟩ := List.forall_mem_cons.1 hown
      obtain ⟨hanswer, hafter⟩ := serve_congr hregion hr
      obtain ⟨hanswers, hend⟩ := ih hrest hothersRest hafter
      exact ⟨congrArg₂ List.cons hanswer hanswers, hend⟩
    · rw [markedBy_cons_ne hj] at hown ⊢
      rw [markedBy_cons_ne hj]
      have hapart := hothers (j, r) List.mem_cons_self hj
      exact ih hown hothersRest ((region_serve_of_apart hapart).trans hregion)

omit [DecidableEq ι] in
/-- A path that is apart from every path that is named exists in the end just if it did at the beginning. -/
theorem mem_serveAll_of_apart {mixed : List (ι × TreeRequest)} {p : Path}
    (h : ∀ entry ∈ mixed, entry.2.path.Apart p) : p ∈ (t.serveAll mixed).2 ↔ p ∈ t := by
  induction mixed generalizing t with
  | nil => rfl
  | cons entry rest ih =>
    obtain ⟨hentry, hrest⟩ := List.forall_mem_cons.1 h
    exact (ih hrest).trans (mem_serve_of_apart hentry)

/-- The requests of any sessions that work in separate parts of the tree. -/
def WorkApart (requests : ι → List TreeRequest) : Prop :=
  ∀ i j, i ≠ j → ∀ a ∈ requests i, ∀ b ∈ requests j, a.path.Apart b.path

/-- **The order does not matter.** Any two orders of the same sessions' requests get each session the same answers and
end with the same paths. -/
theorem serveAll_congr {requests : ι → List TreeRequest} (hapart : WorkApart requests)
    {mixed mixed' : List (ι × TreeRequest)} (hmixed : ∀ i, markedBy i mixed = requests i)
    (hmixed' : ∀ i, markedBy i mixed' = requests i) (t : Tree) :
    (∀ i, markedBy i (t.serveAll mixed).1 = markedBy i (t.serveAll mixed').1) ∧
      ∀ p, p ∈ (t.serveAll mixed).2 ↔ p ∈ (t.serveAll mixed').2 := by
  -- every session gets what it would get by itself, in both orders
  have halone {order : List (ι × TreeRequest)} (horder : ∀ i, markedBy i order = requests i) (i : ι) :
      markedBy i (t.serveAll order).1 = (t.serveEach (requests i)).1 ∧
        (t.serveAll order).2.region (requests i) = (t.serveEach (requests i)).2.region (requests i) := by
    have hothers : ∀ entry ∈ order, entry.1 ≠ i → ∀ a ∈ requests i, a.path.Apart entry.2.path := by
      intro entry hentry hne a ha
      have hb : entry.2 ∈ requests entry.1 := horder entry.1 ▸ mem_markedBy.2 hentry
      exact hapart i entry.1 hne.symm a ha entry.2 hb
    have h := serveAll_eq_serveEach (fun r hr => horder i ▸ hr) hothers (Eq.refl (t.region (requests i)))
    rwa [horder i] at h
  refine ⟨fun i => (halone hmixed i).1.trans (halone hmixed' i).1.symm, fun p => ?_⟩
  by_cases hnear : ∃ i, Near (requests i) p
  · obtain ⟨i, hnear⟩ := hnear
    exact mem_congr_of_near ((halone hmixed i).2.trans (halone hmixed' i).2.symm) hnear
  · -- a path that is near to nobody's is not touched by anybody
    have hfar {order : List (ι × TreeRequest)} (horder : ∀ i, markedBy i order = requests i) :
        ∀ entry ∈ order, entry.2.path.Apart p := by
      intro entry hentry
      by_contra happroaches
      exact hnear ⟨entry.1, entry.2, horder entry.1 ▸ mem_markedBy.2 hentry, happroaches⟩
    exact (mem_serveAll_of_apart (hfar hmixed)).trans (mem_serveAll_of_apart (hfar hmixed')).symm

/-! ## One after the other

Serving one session after the other is an interleaving too, so any interleaving agrees with it. -/

omit [DecidableEq ι] in
/-- Requests can be served in two goes. -/
theorem serveAll_append (t : Tree) (mixed mixed' : List (ι × TreeRequest)) :
    t.serveAll (mixed ++ mixed') =
      ((t.serveAll mixed).1 ++ ((t.serveAll mixed).2.serveAll mixed').1, ((t.serveAll mixed).2.serveAll mixed').2) := by
  induction mixed generalizing t with
  | nil => rfl
  | cons entry rest ih =>
    obtain ⟨i, r⟩ := entry
    simp only [List.cons_append, serveAll, ih]

omit [DecidableEq ι] in
/-- A session that has the tree to itself is served as if there were no others. -/
theorem serveAll_map (t : Tree) (i : ι) (requests : List TreeRequest) :
    t.serveAll (requests.map (i, ·)) = ((t.serveEach requests).1.map (i, ·), (t.serveEach requests).2) := by
  induction requests generalizing t with
  | nil => rfl
  | cons r rest ih => simp only [List.map_cons, serveAll, serveEach, ih]

/-- Two sessions one after the other. -/
theorem serveAll_map_append (t : Tree) {i j : ι} (h : j ≠ i) (requests requests' : List TreeRequest) :
    let served := t.serveAll (requests.map (i, ·) ++ requests'.map (j, ·))
    markedBy i served.1 = (t.serveEach requests).1 ∧
      markedBy j served.1 = ((t.serveEach requests).2.serveEach requests').1 ∧
      served.2 = ((t.serveEach requests).2.serveEach requests').2 := by
  intro served
  have hserved : served =
      ((t.serveEach requests).1.map (i, ·) ++ ((t.serveEach requests).2.serveEach requests').1.map (j, ·),
        ((t.serveEach requests).2.serveEach requests').2) := by
    show t.serveAll _ = _
    rw [serveAll_append, serveAll_map, serveAll_map]
  rw [hserved]
  exact ⟨(markedBy_map_append h _ _).1, (markedBy_map_append h _ _).2, rfl⟩

/--
**Sessions in separate parts of the tree do not disturb each other.** Let no path that one session names be at, above or
below a path that the other names. In whatever order their requests come, on whatever tree, each request gets the answer
that it gets when one session comes after the other, whichever is first, and the same paths exist in the end.
-/
theorem serveAll_interleaving (t : Tree) {first second : List TreeRequest}
    (hapart : ∀ a ∈ first, ∀ b ∈ second, a.path ≠ b.path ∧ a.path.isAncestorOf b.path = false ∧
      b.path.isAncestorOf a.path = false)
    {mixed : List (Bool × TreeRequest)} (hfirst : markedBy true mixed = first)
    (hsecond : markedBy false mixed = second) :
    let served := t.serveAll mixed
    let afterFirst := t.serveEach first
    let afterSecond := t.serveEach second
    (markedBy true served.1 = afterFirst.1 ∧ markedBy false served.1 = (afterFirst.2.serveEach second).1 ∧
      ∀ p, p ∈ served.2 ↔ p ∈ (afterFirst.2.serveEach second).2) ∧
    (markedBy false served.1 = afterSecond.1 ∧ markedBy true served.1 = (afterSecond.2.serveEach first).1 ∧
      ∀ p, p ∈ served.2 ↔ p ∈ (afterSecond.2.serveEach first).2) := by
  intro served afterFirst afterSecond
  let requests : Bool → List TreeRequest := fun session => if session then first else second
  -- two sessions are a family over the truth values
  have hwork : WorkApart requests := by
    intro i j hne a ha b hb
    cases i with
    | true =>
      obtain rfl : j = false := by simpa using hne.symm
      exact hapart a ha b hb
    | false =>
      obtain rfl : j = true := by simpa using hne.symm
      exact Path.Apart.symm (hapart b hb a ha)
  have hmixed (session : Bool) : markedBy session mixed = requests session := by
    cases session with
    | true => exact hfirst
    | false => exact hsecond
  have hinOrder (session : Bool) :
      markedBy session (first.map (true, ·) ++ second.map (false, ·)) = requests session := by
    cases session with
    | true => exact (markedBy_map_append Bool.false_ne_true first second).1
    | false => exact (markedBy_map_append Bool.false_ne_true first second).2
  have hreversed (session : Bool) :
      markedBy session (second.map (false, ·) ++ first.map (true, ·)) = requests session := by
    cases session with
    | true => exact (markedBy_map_append Bool.false_ne_true.symm second first).2
    | false => exact (markedBy_map_append Bool.false_ne_true.symm second first).1
  obtain ⟨hanswers, hmem⟩ := serveAll_congr hwork hmixed hinOrder t
  obtain ⟨hanswers', hmem'⟩ := serveAll_congr hwork hmixed hreversed t
  -- the two orders in which one session comes as a whole before the other
  obtain ⟨hone, hother, hend⟩ := serveAll_map_append t Bool.false_ne_true first second
  obtain ⟨hone', hother', hend'⟩ := serveAll_map_append t Bool.false_ne_true.symm second first
  refine ⟨⟨(hanswers true).trans hone, (hanswers false).trans hother, fun p => ?_⟩,
    ⟨(hanswers' false).trans hone', (hanswers' true).trans hother', fun p => ?_⟩⟩
  · exact hend ▸ hmem p
  · exact hend' ▸ hmem' p

/-- One session removes a directory that holds an orphan and makes it again, while the other lists and clears out its
own. -/
theorem serveAll_interleaving_of_orphan :
    let t := (empty.serveEach [.create (Path.parse "/a"), .create (Path.parse "/a/x/y"), .create (Path.parse "/b"),
      .create (Path.parse "/b/c")]).2
    let first : List TreeRequest :=
      [.delete (Path.parse "/a"), .create (Path.parse "/a"), .contains (Path.parse "/a/x/y")]
    let second : List TreeRequest :=
      [.children (Path.parse "/b"), .delete (Path.parse "/b/c"), .children (Path.parse "/b")]
    let mixed := ((first.map (true, ·)).zip (second.map (false, ·))).flatMap fun pair => [pair.2, pair.1]
    (∀ a ∈ first, ∀ b ∈ second, a.path ≠ b.path ∧ a.path.isAncestorOf b.path = false ∧
      b.path.isAncestorOf a.path = false) ∧
    markedBy true mixed = first ∧ markedBy false mixed = second ∧
    markedBy true (t.serveAll mixed).1 = [.told true, .told true, .told false] ∧
    markedBy false (t.serveAll mixed).1 = [.listed {Path.parse "/b/c"}, .told true, .listed 0] ∧
    ∀ p, p ∈ (t.serveAll mixed).2 ↔ p ∈ ((t.serveEach first).2.serveEach second).2 := by
  intro t first second mixed
  have hapart : ∀ a ∈ first, ∀ b ∈ second, a.path ≠ b.path ∧ a.path.isAncestorOf b.path = false ∧
      b.path.isAncestorOf a.path = false := by decide
  have hfirst : markedBy true mixed = first := rfl
  have hsecond : markedBy false mixed = second := rfl
  obtain ⟨⟨hone, -, hmem⟩, hother, -, -⟩ := serveAll_interleaving t hapart hfirst hsecond
  have hremoves : (t.serveEach first).1 = [.told true, .told true, .told false] := by decide
  have hlists : (t.serveEach second).1 = [.listed {Path.parse "/b/c"}, .told true, .listed 0] := by decide
  exact ⟨hapart, hfirst, hsecond, hone.trans hremoves, hother.trans hlists, hmem⟩

end Tree

end FtpIntake
