import CodeMigration.Proofs.Lexemes

/-!
# CodeMigration.Proofs.Preference

Which of the words that a sequence of patterns can take is the one of a match. Of all threads
that leave the sequence the first is the one that prefers the earliest thread of the first
pattern from which the others can go on (`Pattern.first?`); superfluous threads do not matter,
because whether the others can go on depends on the place alone (`Pattern.head?_ends_foldl`).

So the characters that a run takes as few of as possible end where the rest of the sequence fits
for the first time (`Pattern.exists_shortest_of_matchAt?`).
-/

namespace CodeMigration

theorem findSome?_flatMap {α β γ : Type} (f : α → List β) (find : β → Option γ) (l : List α) :
    (l.flatMap f).findSome? find = l.findSome? fun x => (f x).findSome? find := by
  induction l with
  | nil => rfl
  | cons x l ih =>
      rw [List.flatMap_cons, List.findSome?_append, List.findSome?_cons, ih]
      cases (f x).findSome? find <;> rfl

namespace Thread

/-- A search among threads that depends on their keys finds the same without the superfluous
ones. -/
theorem findSome?_keep {α : Type} {find : Thread → Option α} {seen : Std.TreeSet (List Nat)}
    {ts : List Thread}
    (hkey : ∀ t ∈ ts, ∀ u ∈ ts, t.key = u.key → find t = none → find u = none)
    (hseen : ∀ t ∈ ts, seen.contains t.key = true → find t = none) :
    (distinct.keep seen ts).findSome? find = ts.findSome? find := by
  induction ts generalizing seen with
  | nil => rfl
  | cons t rest ih =>
      have hrest : ∀ u ∈ rest, ∀ v ∈ rest, u.key = v.key → find u = none → find v = none :=
        fun u hu v hv => hkey u (List.mem_cons_of_mem t hu) v (List.mem_cons_of_mem t hv)
      unfold distinct.keep
      by_cases ht : seen.contains t.key = true
      · rw [if_pos ht, List.findSome?_cons, hseen t List.mem_cons_self ht]
        exact ih hrest fun u hu => hseen u (List.mem_cons_of_mem t hu)
      · rw [if_neg ht, List.findSome?_cons, List.findSome?_cons]
        cases hfind : find t with
        | some found => rfl
        | none =>
            refine ih hrest fun u hu hcontains => ?_
            rw [Std.TreeSet.contains_insert, Bool.or_eq_true, beq_iff_eq] at hcontains
            cases hcontains with
            | inl heq =>
                have hsame : t.key = u.key := by simpa using heq
                exact hkey t List.mem_cons_self u (List.mem_cons_of_mem t hu) hsame hfind
            | inr hbefore => exact hseen u (List.mem_cons_of_mem t hu) hbefore

theorem findSome?_distinct {α : Type} {find : Thread → Option α} {ts : List Thread}
    (hkey : ∀ t ∈ ts, ∀ u ∈ ts, t.key = u.key → find t = none → find u = none) :
    (distinct ts).findSome? find = ts.findSome? find := by
  unfold distinct
  split
  · rfl
  · rfl
  · exact findSome?_keep hkey fun t _ hempty => absurd hempty (by simp)

/-- Threads that were reached before come last. -/
theorem along_append {mark : Option Nat} {set : CharSet} {a : Text} {t : Thread}
    (reached : List Thread) :
    along mark set a t reached = along mark set a t [] ++ reached := by
  induction a generalizing t reached with
  | nil => rfl
  | cons c rest ih =>
      unfold along
      split
      · dsimp only
        rw [ih, ih [t], List.append_assoc]
        rfl
      · rfl

/-- A search among the threads that take characters of a set, the one that takes fewest first. -/
theorem exists_of_findSome?_along {α : Type} {find : Thread → Option α} {set : CharSet}
    {b a : Text} {caps : Captures} {found : α}
    (h : (along none set a ⟨.between b a, caps, []⟩ []).reverse.findSome? find = some found) :
    ∃ v r, a = v ++ r ∧ (∀ c ∈ v, set.contains c = true) ∧
      find ⟨.between (v.reverse ++ b) r, caps, []⟩ = some found ∧
      ∀ x y, v = x ++ y → y ≠ [] → find ⟨.between (x.reverse ++ b) (y ++ r), caps, []⟩ = none := by
  have hstop : ∀ {b a : Text}, find ⟨.between b a, caps, []⟩ = some found →
      ∃ v r, a = v ++ r ∧ (∀ c ∈ v, set.contains c = true) ∧
        find ⟨.between (v.reverse ++ b) r, caps, []⟩ = some found ∧
        ∀ x y, v = x ++ y → y ≠ [] →
          find ⟨.between (x.reverse ++ b) (y ++ r), caps, []⟩ = none := by
    intro b a hfind
    refine ⟨[], a, rfl, by simp, hfind, fun x y hxy hy => ?_⟩
    exact absurd (List.append_eq_nil_iff.1 hxy.symm).2 hy
  induction a generalizing b with
  | nil =>
      refine hstop ?_
      simpa [along] using h
  | cons c rest ih =>
      unfold along at h
      by_cases hc : set.contains c = true
      · rw [if_pos hc, along_append, List.reverse_append, List.reverse_singleton,
          List.singleton_append, List.findSome?_cons] at h
        cases hfind : find ⟨.between b (c :: rest), caps, []⟩ with
        | some other =>
            rw [hfind] at h
            exact hstop (hfind.trans h)
        | none =>
            rw [hfind] at h
            obtain ⟨v, r, rfl, hv, hfound, hno⟩ := ih h
            refine ⟨c :: v, r, rfl, by simpa [hc] using hv, by simpa using hfound, ?_⟩
            intro x y hxy hy
            cases x with
            | nil =>
                obtain rfl : c :: v = y := hxy
                exact hfind
            | cons d x =>
                obtain ⟨rfl, hv⟩ := List.cons.inj hxy
                simpa using hno x y hv hy
      · rw [if_neg hc] at h
        refine hstop ?_
        simpa using h

end Thread

namespace Pattern

/-- The preferred one of the threads that leave the patterns one after another. -/
def first? : List Pattern → Thread → Option Thread
  | [], t => some t
  | p :: ps, t => (p.ends t).findSome? (first? ps)

/-- The preferred thread leaves the first patterns somewhere, and from there it is preferred. -/
theorem exists_of_first?_append {ps qs : List Pattern} (hps : ∀ p ∈ ps, p.isPlain = true)
    {t u : Thread} (ht : t.crossed = []) (h : first? (ps ++ qs) t = some u) :
    ∃ w a k, t.place.after = w ++ a ∧ TakesAll ps t.place.before w a k ∧
      first? qs ⟨.between (w.reverse ++ t.place.before) a, k ++ t.captures, []⟩ = some u := by
  induction ps generalizing t with
  | nil =>
      obtain ⟨place, captures, crossed⟩ := t
      subst ht
      exact ⟨[], place.after, [], rfl, ⟨rfl, rfl⟩, by simpa [← Cursor.eq_between] using h⟩
  | cons p ps ih =>
      obtain ⟨hp, hps⟩ := List.forall_mem_cons.1 hps
      obtain ⟨v, hv, hfound⟩ := List.exists_of_findSome?_eq_some h
      obtain ⟨w, a, k, hafter, htakes, rfl⟩ := sound_of_isPlain hp ht hv
      obtain ⟨w', r, k', ha, htakes', hfound'⟩ := ih hps rfl hfound
      simp only [Cursor.after_between, Cursor.before_between] at ha htakes' hfound'
      subst ha
      exact ⟨w ++ w', r, k' ++ k, by simp [hafter], ⟨w, w', k, k', rfl, htakes, htakes', rfl⟩,
        by simpa using hfound'⟩

theorem exists_of_first? {ps : List Pattern} (hps : ∀ p ∈ ps, p.isPlain = true) {t u : Thread}
    (ht : t.crossed = []) (h : first? ps t = some u) :
    ∃ w r k, t.place.after = w ++ r ∧ TakesAll ps t.place.before w r k ∧
      u = ⟨.between (w.reverse ++ t.place.before) r, k ++ t.captures, []⟩ := by
  rw [← List.append_nil ps] at h
  obtain ⟨w, r, k, hafter, htakes, hu⟩ := exists_of_first?_append hps ht h
  exact ⟨w, r, k, hafter, htakes, (Option.some.inj hu).symm⟩

/-- Some thread leaves the patterns if they fit at the place. -/
theorem first?_eq_none_iff {ps : List Pattern} (hps : ∀ p ∈ ps, p.isPlain = true) {t : Thread}
    (ht : t.crossed = []) : first? ps t = none ↔ ¬ FitsAll ps t.place.before t.place.after := by
  constructor
  · intro h hfits
    induction ps generalizing t with
    | nil => cases h
    | cons p ps ih =>
        obtain ⟨hp, hps⟩ := List.forall_mem_cons.1 hps
        obtain ⟨w, r, k, hafter, htakes, hfits⟩ := hfits
        obtain ⟨place, captures, crossed⟩ := t
        subst ht
        rw [Cursor.eq_between place, hafter] at h
        obtain ⟨v, hv, hplace⟩ := complete_of_isPlain hp captures htakes
        have hnone := List.findSome?_eq_none_iff.1 h v hv
        refine ih hps (sound_of_isPlain hp rfl hv).crossed hnone ?_
        rw [hplace]
        exact hfits
  · intro hno
    cases hfirst : first? ps t with
    | none => rfl
    | some u =>
        obtain ⟨w, r, k, hafter, htakes, -⟩ := exists_of_first? hps ht hfirst
        exact absurd (fitsAll_iff.2 ⟨w, r, k, hafter, htakes⟩) hno

/-- The preferred thread of a sequence is found from left to right. -/
theorem head?_ends_foldl {p : Pattern} {ps : List Pattern} (hp : p.isPlain = true)
    (hps : ∀ q ∈ ps, q.isPlain = true) {t : Thread} (ht : t.crossed = []) :
    ((ps.foldl seq p).ends t).head? = first? (p :: ps) t := by
  induction ps generalizing p with
  | nil =>
      show ((p.ends t).head?) = (p.ends t).findSome? some
      cases p.ends t <;> rfl
  | cons q ps ih =>
      obtain ⟨hq, hps⟩ := List.forall_mem_cons.1 hps
      have hseq : (seq p q).isPlain = true := by simp [isPlain, hp, hq]
      have hleads : ∀ x ∈ (p.ends t).flatMap q.ends, (seq p q).Leads t x := fun x hx =>
        (sound_of_isPlain hp).leads_of_mem_flatMap (sound_of_isPlain hq) ht hx
      rw [List.foldl_cons, ih hseq hps]
      show ((seq p q).ends t).findSome? (first? ps) =
        (p.ends t).findSome? fun x => (q.ends x).findSome? (first? ps)
      rw [ends, Thread.findSome?_distinct, findSome?_flatMap]
      -- Threads with one key are at one place.
      intro x hx y hy hkey hnone
      have hplace := (hleads x hx).place_eq (hleads y hy) (List.cons.inj hkey).1
      rw [first?_eq_none_iff hps (hleads x hx).crossed] at hnone
      rwa [first?_eq_none_iff hps (hleads y hy).crossed, ← hplace]

/-- The match of a sequence of patterns is that of the preferred thread. -/
theorem exists_first?_of_matchAt? {ps : List Pattern} (hps : ∀ p ∈ ps, p.isPlain = true)
    (hne : ps ≠ []) {place : Cursor} {m : Match} (h : (seqs ps).matchAt? place = some m) :
    ∃ t, first? ps (.enter place) = some t ∧ m = ⟨place, t.place, t.captures⟩ := by
  obtain ⟨p, ps, rfl⟩ := List.exists_cons_of_ne_nil hne
  obtain ⟨hp, hps⟩ := List.forall_mem_cons.1 hps
  unfold matchAt? at h
  split at h
  · cases h
  · next t ts hends =>
    refine ⟨t, ?_, (Option.some.inj h).symm⟩
    rw [← head?_ends_foldl hp hps rfl]
    exact congrArg List.head? hends

/-- A group of as few characters as possible ends where the patterns behind it fit for the first
time. -/
theorem exists_shortest_of_matchAt? {ps qs : List Pattern} {i : Nat} {set : CharSet}
    (hps : ∀ p ∈ ps, p.isPlain = true) (hqs : ∀ q ∈ qs, q.isPlain = true) {b a : Text} {m : Match}
    (h : (seqs (ps ++ .group i (few set) :: qs)).matchAt? (.between b a) = some m) :
    ∃ u v w r k l, a = u ++ (v ++ (w ++ r)) ∧ TakesAll ps b u (v ++ (w ++ r)) k ∧
      TakesAll qs (v.reverse ++ (u.reverse ++ b)) w r l ∧
      m = .taken b (u ++ (v ++ w)) r (l ++ (i, .between (u.reverse ++ b) (v ++ (w ++ r)),
        .between (v.reverse ++ (u.reverse ++ b)) (w ++ r)) :: k) ∧
      ∀ x y, v = x ++ y → y ≠ [] →
        ¬ FitsAll qs (x.reverse ++ (u.reverse ++ b)) (y ++ (w ++ r)) := by
  have hplain : ∀ p ∈ ps ++ .group i (few set) :: qs, p.isPlain = true :=
    List.forall_mem_append.2 ⟨hps, List.forall_mem_cons.2 ⟨rfl, hqs⟩⟩
  obtain ⟨t, hfirst, rfl⟩ := exists_first?_of_matchAt? hplain (by simp) h
  obtain ⟨u, a', k, hafter, htakes, hrest⟩ := exists_of_first?_append hps rfl hfirst
  obtain rfl : a = u ++ a' := hafter
  simp only [Thread.enter, Cursor.before_between, List.append_nil] at htakes hrest
  -- The threads that leave the group are those of the run, the one that took fewest first.
  have hruns : (Thread.along none set a' ⟨.between (u.reverse ++ b) a', k, []⟩ []).reverse.findSome?
      (fun x => first? qs { x with captures :=
        (i, .between (u.reverse ++ b) a', x.place) :: x.captures }) = some t := by
    have hgroup := hrest
    simp only [first?, ends, few, Thread.cross?, List.findSome?_map] at hgroup
    exact hgroup
  obtain ⟨v, a'', rfl, hv, hfound, hno⟩ := Thread.exists_of_findSome?_along hruns
  obtain ⟨w, r, l, hbehind, htakes', rfl⟩ := exists_of_first? hqs rfl hfound
  obtain rfl : a'' = w ++ r := hbehind
  refine ⟨u, v, w, r, k, l, rfl, htakes, htakes', ?_, fun x y hxy hy => ?_⟩
  · simp [Match.taken]
  · exact (first?_eq_none_iff hqs rfl).1 (hno x y hxy hy)

end Pattern

end CodeMigration
