import CodeMigration.Pattern.Match

/-!
# CodeMigration.Proofs.Reading

What a pattern can take, as a relation. `Pattern.Takes` says which words a pattern
takes between two texts and what it captures on the way; it knows neither threads
nor preference. The main statements connect it with the list of threads that leave a
pattern:

* `Pattern.sound_of_isPlain`: a thread that leaves a plain pattern has taken a word
  that the pattern takes;
* `Pattern.complete_of_isPlain`: for every word that a plain pattern takes, some thread
  leaves the pattern behind it.

Both go through the pattern constructor by constructor (`Pattern.Sound`,
`Pattern.Complete`). Superfluous threads are dropped on the way, so the second
statement fixes the place of the thread but not its captures.

A repetition is searched depth first, and no place is searched twice. The search is
complete because every round moves on: when it comes back from a place, nothing
behind that place is left to do (`Pattern.Settles`).
-/

namespace CodeMigration

namespace Cursor

/-- The place between two texts, the first of them reversed. -/
def between (before after : Text) : Cursor := ⟨before, after, before.length, rfl⟩

@[simp] theorem before_between (b a : Text) : (between b a).before = b := rfl
@[simp] theorem after_between (b a : Text) : (between b a).after = a := rfl
@[simp] theorem offset_between (b a : Text) : (between b a).offset = b.length := rfl

theorem eq_between (c : Cursor) : c = between c.before c.after := by
  obtain ⟨b, a, n, h⟩ := c
  subst h
  rfl

theorem afterWord?_eq_some_iff {w b a : Text} {d : Cursor} :
    afterWord? w (between b a) = some d ↔
      ∃ r, a = w ++ r ∧ d = between (w.reverse ++ b) r := by
  induction w generalizing b a with
  | nil => simp [afterWord?, eq_comm]
  | cons x w ih =>
      cases a with
      | nil => simp [afterWord?]
      | cons y rest =>
          by_cases hxy : x = y
          · subst hxy
            have hstep : afterWord? (x :: w) (between b (x :: rest)) =
                afterWord? w (between (x :: b) rest) := by simp [afterWord?]; rfl
            rw [hstep, ih]
            simp
          · simp [afterWord?, hxy]; intro r h; exact absurd h.symm hxy

end Cursor

namespace Thread

theorem mem_of_mem_keep {seen : Std.TreeSet (List Nat)} {ts : List Thread} {u : Thread}
    (h : u ∈ distinct.keep seen ts) : u ∈ ts := by
  induction ts generalizing seen with
  | nil => simp [distinct.keep] at h
  | cons t rest ih =>
      unfold distinct.keep at h
      split at h
      · exact List.mem_cons_of_mem t (ih h)
      · rcases List.mem_cons.1 h with rfl | h
        · exact List.mem_cons_self
        · exact List.mem_cons_of_mem t (ih h)

theorem exists_mem_keep {seen : Std.TreeSet (List Nat)} {ts : List Thread} {t : Thread}
    (ht : t ∈ ts) (hseen : seen.contains t.key = false) :
    ∃ u ∈ distinct.keep seen ts, u.key = t.key := by
  induction ts generalizing seen with
  | nil => simp at ht
  | cons s rest ih =>
      unfold distinct.keep
      by_cases hs : seen.contains s.key = true
      · rw [if_pos hs]
        rcases List.mem_cons.1 ht with rfl | ht
        · rw [hs] at hseen; cases hseen
        · exact ih ht hseen
      · rw [if_neg hs]
        by_cases hk : s.key = t.key
        · exact ⟨s, List.mem_cons_self, hk⟩
        · rcases List.mem_cons.1 ht with rfl | ht
          · exact absurd rfl hk
          · have hnew : (seen.insert s.key).contains t.key = false := by
              rw [Std.TreeSet.contains_insert, hseen, Bool.or_false, beq_eq_false_iff_ne]
              simpa using hk
            obtain ⟨u, hu, hkey⟩ := ih ht hnew
            exact ⟨u, List.mem_cons_of_mem s hu, hkey⟩

theorem mem_of_mem_distinct {ts : List Thread} {u : Thread} (h : u ∈ distinct ts) : u ∈ ts := by
  unfold distinct at h
  split at h
  · exact h
  · exact h
  · exact mem_of_mem_keep h

theorem exists_mem_distinct {ts : List Thread} {t : Thread} (ht : t ∈ ts) :
    ∃ u ∈ distinct ts, u.key = t.key := by
  unfold distinct
  split
  · exact ⟨t, ht, rfl⟩
  · exact ⟨t, ht, rfl⟩
  · exact exists_mem_keep ht (by simp)

theorem head?_distinct (ts : List Thread) : (distinct ts).head? = ts.head? := by
  unfold distinct
  split
  · rfl
  · rfl
  · next h1 h2 => 
    cases ts with
    | nil => rfl
    | cons t rest => simp [distinct.keep]

end Thread

/-- Captured groups with their ends, latest first. -/
abbrev Captures := List (Nat × Cursor × Cursor)

namespace Pattern

/-- Has the pattern no numbered choice and no repetition of something that can be
empty or of limited number? -/
def isPlain : Pattern → Bool
  | empty | word _ | one _ | look _ => true
  | seq p q => p.isPlain && q.isPlain
  | alt mark p q => mark.isNone && p.isPlain && q.isPlain
  | group _ p => p.isPlain
  | run mark _ _ => mark.isNone
  | star mark _ p => mark.isNone && p.isPlain
  | rounds _ _ _ | upTo _ _ _ | region _ => false

/-- `p.Takes b w a k`: between the texts `b`, which is reversed, and `a` the pattern
can take the word `w`, and it then captures `k`. -/
inductive Takes : Pattern → Text → Text → Text → Captures → Prop
  | empty {b a : Text} : Takes .empty b [] a []
  | word {cs b a : Text} : Takes (.word cs) b cs a []
  | one {set : CharSet} {x : Char} {b a : Text} (h : set.contains x = true) :
      Takes (.one set) b [x] a []
  | look {anchor : Anchor} {b a : Text} (h : anchor.holds (.between b a) = true) :
      Takes (.look anchor) b [] a []
  | seq {p q : Pattern} {b v w a : Text} {k l : Captures} (hp : Takes p b v (w ++ a) k)
      (hq : Takes q (v.reverse ++ b) w a l) : Takes (.seq p q) b (v ++ w) a (l ++ k)
  | altLeft {mark : Option Nat} {p q : Pattern} {b w a : Text} {k : Captures}
      (hp : Takes p b w a k) : Takes (.alt mark p q) b w a k
  | altRight {mark : Option Nat} {p q : Pattern} {b w a : Text} {k : Captures}
      (hq : Takes q b w a k) : Takes (.alt mark p q) b w a k
  | group {i : Nat} {p : Pattern} {b w a : Text} {k : Captures} (hp : Takes p b w a k) :
      Takes (.group i p) b w a ((i, .between b (w ++ a), .between (w.reverse ++ b) a) :: k)
  | run {mark : Option Nat} {greedy : Bool} {set : CharSet} {b w a : Text}
      (h : ∀ x ∈ w, set.contains x = true) : Takes (.run mark greedy set) b w a []
  | starNil {mark : Option Nat} {greedy : Bool} {p : Pattern} {b a : Text} :
      Takes (.star mark greedy p) b [] a []
  | starCons {mark : Option Nat} {greedy : Bool} {p : Pattern} {b v w a : Text}
      {k l : Captures} (hv : v ≠ []) (hp : Takes p b v (w ++ a) k)
      (hstar : Takes (.star mark greedy p) (v.reverse ++ b) w a l) :
      Takes (.star mark greedy p) b (v ++ w) a (l ++ k)

/-- The pattern leads from one thread to another. -/
def Leads (p : Pattern) (t u : Thread) : Prop :=
  ∃ w a k, t.place.after = w ++ a ∧ p.Takes t.place.before w a k ∧
    u = ⟨.between (w.reverse ++ t.place.before) a, k ++ t.captures, []⟩

theorem Leads.crossed {p : Pattern} {t u : Thread} (h : p.Leads t u) : u.crossed = [] := by
  obtain ⟨w, a, k, -, -, rfl⟩ := h
  rfl

theorem Leads.seq {p q : Pattern} {t u v : Thread} (hp : p.Leads t v) (hq : q.Leads v u) :
    (Pattern.seq p q).Leads t u := by
  obtain ⟨w, a, k, hafter, htakes, rfl⟩ := hp
  obtain ⟨w', a', k', hafter', htakes', rfl⟩ := hq
  simp only [Cursor.after_between, Cursor.before_between] at hafter' htakes'
  subst hafter'
  exact ⟨w ++ w', a', k' ++ k, by simp [hafter], .seq htakes htakes', by simp⟩

theorem Leads.altLeft {p : Pattern} {t u : Thread} (h : p.Leads t u) (mark : Option Nat)
    (q : Pattern) : (Pattern.alt mark p q).Leads t u := by
  obtain ⟨w, a, k, hafter, htakes, hu⟩ := h
  exact ⟨w, a, k, hafter, .altLeft htakes, hu⟩

theorem Leads.altRight {q : Pattern} {t u : Thread} (h : q.Leads t u) (mark : Option Nat)
    (p : Pattern) : (Pattern.alt mark p q).Leads t u := by
  obtain ⟨w, a, k, hafter, htakes, hu⟩ := h
  exact ⟨w, a, k, hafter, .altRight htakes, hu⟩

theorem Leads.starCons {p : Pattern} {mark : Option Nat} {greedy : Bool} {t u v : Thread}
    (hp : p.Leads t v) (hmove : t.place.offset < v.place.offset)
    (hstar : (Pattern.star mark greedy p).Leads v u) : (Pattern.star mark greedy p).Leads t u := by
  obtain ⟨w, a, k, hafter, htakes, rfl⟩ := hp
  obtain ⟨w', a', k', hafter', htakes', rfl⟩ := hstar
  simp only [Cursor.after_between, Cursor.before_between] at hafter' htakes'
  subst hafter'
  have hw : w ≠ [] := by
    rintro rfl
    simp [t.place.offset_eq] at hmove
  exact ⟨w ++ w', a', k' ++ k, by simp [hafter], .starCons hw htakes htakes', by simp⟩

/-- Where a pattern can take nothing it leads a thread to itself. -/
theorem leads_self {p : Pattern} {t : Thread} (ht : t.crossed = [])
    (h : p.Takes t.place.before [] t.place.after []) : p.Leads t t := by
  obtain ⟨place, captures, crossed⟩ := t
  subst ht
  exact ⟨[], place.after, [], rfl, h, by simp [← Cursor.eq_between]⟩

/-! ### Soundness -/

/-- Every thread that leaves the pattern is led to by it. -/
def Sound (p : Pattern) : Prop :=
  ∀ ⦃t u : Thread⦄, t.crossed = [] → u ∈ p.ends t → p.Leads t u

theorem sound_empty : empty.Sound := by
  intro t u ht h
  obtain rfl := List.mem_singleton.1 h
  exact leads_self ht .empty

theorem sound_word (cs : Text) : (word cs).Sound := by
  intro t u ht h
  unfold ends at h
  split at h
  · next place hplace =>
    rw [Cursor.eq_between t.place, Cursor.afterWord?_eq_some_iff] at hplace
    obtain ⟨r, hafter, rfl⟩ := hplace
    rw [List.mem_singleton] at h
    exact ⟨cs, r, [], hafter, .word, h⟩
  · simp at h

theorem sound_one (set : CharSet) : (one set).Sound := by
  intro t u ht h
  unfold ends at h
  split at h
  · simp at h
  · next c rest hafter =>
    split at h
    · next hc =>
      rw [List.mem_singleton] at h
      refine ⟨[c], rest, [], by simpa using hafter, .one hc, h.trans ?_⟩
      simp [Thread.moveTo, Cursor.between, t.place.offset_eq]
    · simp at h

theorem sound_look (anchor : Anchor) : (look anchor).Sound := by
  intro t u ht h
  simp only [ends] at h
  split at h
  · next hlook =>
    obtain rfl := List.mem_singleton.1 h
    rw [Cursor.eq_between u.place] at hlook
    exact leads_self ht (.look hlook)
  · simp at h

theorem Sound.leads_of_mem_flatMap {p q : Pattern} (hp : p.Sound) (hq : q.Sound) {t u : Thread}
    (ht : t.crossed = []) (h : u ∈ (p.ends t).flatMap q.ends) : (seq p q).Leads t u := by
  obtain ⟨v, hv, hu⟩ := List.mem_flatMap.1 h
  have hlead := hp ht hv
  exact hlead.seq (hq hlead.crossed hu)

theorem Sound.seq {p q : Pattern} (hp : p.Sound) (hq : q.Sound) : (seq p q).Sound :=
  fun _ _ ht h => hp.leads_of_mem_flatMap hq ht (Thread.mem_of_mem_distinct h)

theorem Sound.leads_of_mem_append {p q : Pattern} (hp : p.Sound) (hq : q.Sound) {t u : Thread}
    (ht : t.crossed = []) (h : u ∈ p.ends t ++ q.ends t) : (alt none p q).Leads t u := by
  rcases List.mem_append.1 h with h | h
  · exact (hp ht h).altLeft none q
  · exact (hq ht h).altRight none p

theorem Sound.alt {p q : Pattern} (hp : p.Sound) (hq : q.Sound) : (alt none p q).Sound :=
  fun _ _ ht h => hp.leads_of_mem_append hq ht (Thread.mem_of_mem_distinct h)

theorem Sound.group {p : Pattern} (hp : p.Sound) (index : Nat) : (group index p).Sound := by
  intro t u ht h
  obtain ⟨v, hv, rfl⟩ := List.mem_map.1 h
  obtain ⟨w, a, k, hafter, htakes, rfl⟩ := hp ht hv
  refine ⟨w, a, _, hafter, .group htakes, ?_⟩
  simp [← hafter, ← Cursor.eq_between]

theorem mem_along {set : CharSet} {b a : Text} {caps : Captures} {reached : List Thread}
    {u : Thread} (h : u ∈ Thread.along none set a ⟨.between b a, caps, []⟩ reached) :
    u ∈ reached ∨ ∃ w r, a = w ++ r ∧ (∀ x ∈ w, set.contains x = true) ∧
      u = ⟨.between (w.reverse ++ b) r, caps, []⟩ := by
  induction a generalizing b reached with
  | nil =>
      simp only [Thread.along, List.mem_cons] at h
      rcases h with rfl | h
      · exact .inr ⟨[], [], rfl, by simp, rfl⟩
      · exact .inl h
  | cons c rest ih =>
      unfold Thread.along at h
      split at h
      · next hc =>
        rcases ih h with h | ⟨w, r, rfl, hw, rfl⟩
        · rcases List.mem_cons.1 h with rfl | h
          · exact .inr ⟨[], c :: rest, rfl, by simp, rfl⟩
          · exact .inl h
        · exact .inr ⟨c :: w, r, rfl, by simpa [hc] using hw, by simp⟩
      · rcases List.mem_cons.1 h with rfl | h
        · exact .inr ⟨[], c :: rest, rfl, by simp, rfl⟩
        · exact .inl h

theorem mem_along_of_mem {set : CharSet} {a : Text} {t u : Thread} {reached : List Thread}
    (hu : u ∈ reached) : u ∈ Thread.along none set a t reached := by
  induction a generalizing t reached with
  | nil => exact List.mem_cons_of_mem t hu
  | cons c rest ih =>
      unfold Thread.along
      split
      · exact ih (List.mem_cons_of_mem t hu)
      · exact List.mem_cons_of_mem t hu

theorem mem_along_of_run {set : CharSet} {w r b : Text} {caps : Captures}
    {reached : List Thread} (hw : ∀ x ∈ w, set.contains x = true) :
    (⟨.between (w.reverse ++ b) r, caps, []⟩ : Thread) ∈
      Thread.along none set (w ++ r) ⟨.between b (w ++ r), caps, []⟩ reached := by
  induction w generalizing b reached with
  | nil =>
      cases r with
      | nil => exact List.mem_cons_self
      | cons c rest =>
          simp only [List.nil_append, List.reverse_nil]
          unfold Thread.along
          split
          · exact mem_along_of_mem List.mem_cons_self
          · exact List.mem_cons_self
  | cons c w ih =>
      simp only [List.mem_cons, forall_eq_or_imp] at hw
      simp only [List.cons_append, List.reverse_cons, List.append_assoc, List.nil_append]
      unfold Thread.along
      rw [if_pos hw.1]
      exact ih hw.2

theorem sound_run (greedy : Bool) (set : CharSet) : (run none greedy set).Sound := by
  intro t u ht h
  obtain ⟨place, captures, crossed⟩ := t
  subst ht
  simp only [ends, Thread.cross?] at h
  have h' : u ∈ Thread.along none set place.after ⟨place, captures, []⟩ [] := by
    split at h
    · exact h
    · exact List.mem_reverse.1 h
  rw [Cursor.eq_between place] at h'
  rcases mem_along h' with h' | ⟨w, r, hafter, hw, rfl⟩
  · simp at h'
  · exact ⟨w, r, [], hafter, .run hw, rfl⟩

/-- Goes on with the rounds from a thread behind the place with `n` characters before it. -/
def goOn (p : Pattern) (greedy : Bool) (fuel n : Nat) (sweep : Sweep) (t : Thread) : Sweep :=
  if t.place.offset ≤ n then sweep else Sweep.rounds p.ends none greedy fuel t sweep

theorem rounds_succ (p : Pattern) (greedy : Bool) (fuel : Nat) (t : Thread) (sweep : Sweep) :
    Sweep.rounds p.ends none greedy (fuel + 1) t sweep =
      if sweep.visited 0 t then sweep
      else if greedy then
        ((p.ends t).foldl (p.goOn greedy fuel t.place.offset) (sweep.visit 0 t)).leave t
      else (p.ends t).foldl (p.goOn greedy fuel t.place.offset) ((sweep.visit 0 t).leave t) := by
  rw [Sweep.rounds]
  cases greedy <;> rfl

/-- What leaves the rounds of a repetition left it before or is led to by it. -/
theorem Sound.leads_of_mem_rounds {p : Pattern} (hp : p.Sound) {greedy : Bool} (fuel : Nat) :
    ∀ (t u : Thread) (sweep : Sweep), t.crossed = [] →
      u ∈ (Sweep.rounds p.ends none greedy fuel t sweep).leaving →
      u ∈ sweep.leaving ∨ (star none greedy p).Leads t u := by
  induction fuel with
  | zero => exact fun t u sweep _ h => .inl h
  | succ fuel ih =>
      intro t u sweep ht h
      -- the rounds that go on from the threads that one round of `t` leads to
      have hfold : ∀ (vs : List Thread), (∀ v ∈ vs, p.Leads t v) → ∀ s : Sweep,
          u ∈ (vs.foldl (p.goOn greedy fuel t.place.offset) s).leaving →
          u ∈ s.leaving ∨ (star none greedy p).Leads t u := by
        intro vs
        induction vs with
        | nil => exact fun _ s h => .inl h
        | cons v vs ihvs =>
            intro hvs s h
            rcases ihvs (fun x hx => hvs x (List.mem_cons_of_mem v hx)) _ h with h | h
            · unfold goOn at h
              split at h
              · exact .inl h
              · next hmove =>
                have hv := hvs v List.mem_cons_self
                rcases ih v u s hv.crossed h with h | h
                · exact .inl h
                · exact .inr (hv.starCons (Nat.lt_of_not_le hmove) h)
            · exact .inr h
      have hnil : (star none greedy p).Leads t t := leads_self ht .starNil
      have hsteps : ∀ v ∈ p.ends t, p.Leads t v := fun v hv => hp ht hv
      rw [rounds_succ] at h
      split at h
      · exact .inl h
      · split at h
        · rcases List.mem_cons.1 h with rfl | h
          · exact .inr hnil
          · exact hfold _ hsteps (sweep.visit 0 t) h
        · rcases hfold _ hsteps ((sweep.visit 0 t).leave t) h with h | h
          · rcases List.mem_cons.1 h with rfl | h
            · exact .inr hnil
            · exact .inl h
          · exact .inr h

theorem Sound.star {p : Pattern} (hp : p.Sound) (greedy : Bool) : (star none greedy p).Sound := by
  intro t u ht h
  simp only [ends, Thread.cross?] at h
  have h' := List.mem_reverse.1 (Thread.mem_of_mem_distinct h)
  exact (hp.leads_of_mem_rounds _ t u {} ht h').resolve_left (by simp)

/-- A thread that leaves a plain pattern has taken a word that the pattern takes. -/
theorem sound_of_isPlain {p : Pattern} (hp : p.isPlain = true) : p.Sound := by
  induction p with
  | empty => exact sound_empty
  | word cs => exact sound_word cs
  | one set => exact sound_one set
  | look anchor => exact sound_look anchor
  | seq p q ihp ihq =>
      simp only [isPlain, Bool.and_eq_true] at hp
      exact (ihp hp.1).seq (ihq hp.2)
  | alt mark p q ihp ihq =>
      simp only [isPlain, Bool.and_eq_true, Option.isNone_iff_eq_none] at hp
      obtain ⟨⟨rfl, hp⟩, hq⟩ := hp
      exact (ihp hp).alt (ihq hq)
  | group index p ihp => exact (ihp hp).group index
  | run mark greedy set =>
      simp only [isPlain, Option.isNone_iff_eq_none] at hp
      subst hp
      exact sound_run greedy set
  | star mark greedy p ihp =>
      simp only [isPlain, Bool.and_eq_true, Option.isNone_iff_eq_none] at hp
      obtain ⟨rfl, hp⟩ := hp
      exact (ihp hp).star greedy
  | rounds mark greedy p => simp [isPlain] at hp
  | upTo limit greedy p => simp [isPlain] at hp
  | region p => simp [isPlain] at hp

/-! ### Completeness -/

/-- Whatever the pattern can take, some thread leaves it behind that. -/
def Complete (p : Pattern) : Prop :=
  ∀ ⦃b w a : Text⦄ ⦃k : Captures⦄ (caps : Captures), p.Takes b w a k →
    ∃ u ∈ p.ends ⟨.between b (w ++ a), caps, []⟩, u.place = .between (w.reverse ++ b) a

/-- Were rounds tried from the place with so many characters before it? -/
def tried (sweep : Sweep) (n : Nat) : Prop := sweep.seen.contains [0, n] = true

/-- From the place with `n` characters before it on, the sweep is closed under rounds:
a place from which rounds were tried may leave, and rounds were tried from every
place that a round from it reaches. -/
def Closed (p : Pattern) (text : Text) (sweep : Sweep) (n : Nat) : Prop :=
  ∀ b a, b.reverse ++ a = text → n ≤ b.length → tried sweep b.length →
    (∃ u ∈ sweep.leaving, u.place = .between b a) ∧
    ∀ v r k, a = v ++ r → v ≠ [] → p.Takes b v r k → tried sweep (b.length + v.length)

/-- One sweep goes on from another at the place with `n` characters before it. -/
structure Extends (sweep later : Sweep) (n : Nat) : Prop where
  tried_of_tried : ∀ m, tried sweep m → tried later m
  mem_of_mem : ∀ u ∈ sweep.leaving, u ∈ later.leaving
  le_of_tried : ∀ m, tried later m → tried sweep m ∨ n ≤ m

theorem Extends.refl (sweep : Sweep) (n : Nat) : Extends sweep sweep n :=
  ⟨fun _ h => h, fun _ h => h, fun _ h => .inl h⟩

theorem Extends.trans {s t u : Sweep} {n : Nat} (hst : Extends s t n) (htu : Extends t u n) :
    Extends s u n where
  tried_of_tried k h := htu.tried_of_tried k (hst.tried_of_tried k h)
  mem_of_mem v h := htu.mem_of_mem v (hst.mem_of_mem v h)
  le_of_tried k h := by
    rcases htu.le_of_tried k h with h | h
    · exact hst.le_of_tried k h
    · exact .inr h

theorem Extends.weaken {s t : Sweep} {n m : Nat} (h : Extends s t m) (hnm : n ≤ m) :
    Extends s t n :=
  ⟨h.tried_of_tried, h.mem_of_mem, fun k hk => (h.le_of_tried k hk).imp_right (Nat.le_trans hnm)⟩

theorem Closed.mono {p : Pattern} {text : Text} {s t : Sweep} {n m : Nat}
    (h : Closed p text s n) (hst : Extends s t m) (ht : Closed p text t m) :
    Closed p text t n := by
  intro b a htext hn htried
  rcases hst.le_of_tried b.length htried with hs | hm
  · obtain ⟨⟨u, hu, hplace⟩, hnext⟩ := h b a htext hn hs
    exact ⟨⟨u, hst.mem_of_mem u hu, hplace⟩,
      fun v r k hr hv hk => hst.tried_of_tried _ (hnext v r k hr hv hk)⟩
  · exact ht b a htext hm htried

theorem tried_visit {sweep : Sweep} {t : Thread} (ht : t.crossed = []) (n : Nat) :
    tried (sweep.visit 0 t) n ↔ n = t.place.offset ∨ tried sweep n := by
  simp [tried, Sweep.visit, Thread.key, ht, Std.TreeSet.contains_insert, eq_comm (a := n)]

theorem goOn_of_le {p : Pattern} {greedy : Bool} {fuel n : Nat} {sweep : Sweep} {t : Thread}
    (h : t.place.offset ≤ n) : p.goOn greedy fuel n sweep t = sweep := if_pos h

theorem goOn_of_lt {p : Pattern} {greedy : Bool} {fuel n : Nat} {sweep : Sweep} {t : Thread}
    (h : n < t.place.offset) :
    p.goOn greedy fuel n sweep t = Sweep.rounds p.ends none greedy fuel t sweep :=
  if_neg (Nat.not_le_of_lt h)

/-- The outcome of rounds that start where `n` characters stand before the place: the
sweep is closed from there on and rounds were tried from there. -/
structure Settled (p : Pattern) (text : Text) (sweep later : Sweep) (n : Nat) : Prop where
  closed : Closed p text later n
  extending : Extends sweep later n
  tried_start : tried later n

/-- With so much fuel, rounds from a thread settle what is left of the text. -/
def Settles (p : Pattern) (greedy : Bool) (text : Text) (fuel : Nat) : Prop :=
  ∀ (b a : Text) (caps : Captures) (sweep : Sweep), b.reverse ++ a = text → a.length < fuel →
    Closed p text sweep b.length →
    Settled p text sweep (Sweep.rounds p.ends none greedy fuel ⟨.between b a, caps, []⟩ sweep)
      b.length

theorem closed_goOn {p : Pattern} {greedy : Bool} {text : Text} {fuel : Nat}
    (hsettles : Settles p greedy text fuel) {b a : Text} {caps : Captures} {v : Thread}
    (htext : b.reverse ++ a = text) (hfuel : a.length < fuel + 1)
    (hv : p.Leads ⟨.between b a, caps, []⟩ v) {s : Sweep} (hs : Closed p text s (b.length + 1)) :
    Closed p text (p.goOn greedy fuel b.length s v) (b.length + 1) ∧
      Extends s (p.goOn greedy fuel b.length s v) (b.length + 1) ∧
      (b.length < v.place.offset → tried (p.goOn greedy fuel b.length s v) v.place.offset) := by
  rcases Nat.lt_or_ge b.length v.place.offset with hmove | hmove
  · rw [goOn_of_lt hmove]
    obtain ⟨w, r, k, hafter, -, rfl⟩ := hv
    simp only [Cursor.after_between] at hafter
    subst hafter
    simp only [Cursor.before_between, Cursor.offset_between] at hmove ⊢
    have hs' : Closed p text s (w.reverse ++ b).length :=
      fun b' a' ht hn hd => hs b' a' ht (by omega) hd
    have hgo := hsettles (w.reverse ++ b) r (k ++ caps) s (by simpa using htext)
      (by simp at hfuel hmove; omega) hs'
    exact ⟨hs.mono hgo.extending hgo.closed, hgo.extending.weaken hmove, fun _ => hgo.tried_start⟩
  · rw [goOn_of_le hmove]
    exact ⟨hs, .refl s _, fun h => absurd h (Nat.not_lt.2 hmove)⟩

theorem closed_foldl_goOn {p : Pattern} {greedy : Bool} {text : Text} {fuel : Nat}
    (hsettles : Settles p greedy text fuel) {b a : Text} {caps : Captures}
    (htext : b.reverse ++ a = text) (hfuel : a.length < fuel + 1) {vs : List Thread}
    (hvs : ∀ v ∈ vs, p.Leads ⟨.between b a, caps, []⟩ v) {s : Sweep}
    (hs : Closed p text s (b.length + 1)) :
    Closed p text (vs.foldl (p.goOn greedy fuel b.length) s) (b.length + 1) ∧
      Extends s (vs.foldl (p.goOn greedy fuel b.length) s) (b.length + 1) ∧
      ∀ v ∈ vs, b.length < v.place.offset →
        tried (vs.foldl (p.goOn greedy fuel b.length) s) v.place.offset := by
  induction vs generalizing s with
  | nil => exact ⟨hs, .refl s _, by simp⟩
  | cons v vs ih =>
      obtain ⟨h1, h2, h3⟩ := closed_goOn hsettles htext hfuel (hvs v List.mem_cons_self) hs
      obtain ⟨h4, h5, h6⟩ := ih (fun x hx => hvs x (List.mem_cons_of_mem v hx)) h1
      refine ⟨h4, h2.trans h5, fun u hu hlt => ?_⟩
      rcases List.mem_cons.1 hu with rfl | hu
      · exact h5.tried_of_tried _ (h3 hlt)
      · exact h6 u hu hlt

/-- Where a thread leaves the sweep, and rounds were tried from all that the pattern leads it to,
they were tried from every place that a round reaches. -/
theorem closed_at_of_ends {p : Pattern} (hcomplete : p.Complete) {b a : Text} {caps : Captures}
    {sweep : Sweep} (hself : (⟨.between b a, caps, []⟩ : Thread) ∈ sweep.leaving)
    (hends : ∀ u ∈ p.ends ⟨.between b a, caps, []⟩, b.length < u.place.offset →
      tried sweep u.place.offset) :
    (∃ u ∈ sweep.leaving, u.place = .between b a) ∧
    ∀ v r k, a = v ++ r → v ≠ [] → p.Takes b v r k → tried sweep (b.length + v.length) := by
  refine ⟨⟨_, hself, rfl⟩, fun v r k hr hv hk => ?_⟩
  subst hr
  obtain ⟨u, hu, hplace⟩ := hcomplete caps hk
  have hoffset : u.place.offset = b.length + v.length := by
    rw [hplace, Cursor.offset_between, List.length_append, List.length_reverse, Nat.add_comm]
  have hpos : 0 < v.length := List.length_pos_iff.2 hv
  rw [← hoffset]
  exact hends u hu (by omega)

/-- After the rounds that go on from a thread its own place is settled too, whether the
thread leaves before them or after them. -/
theorem settled_of_foldl {p : Pattern} {greedy : Bool} {text : Text} {fuel : Nat}
    (hsound : p.Sound) (hcomplete : p.Complete) (hsettles : Settles p greedy text fuel)
    {b a : Text} {caps : Captures}
    (htext : b.reverse ++ a = text) (hfuel : a.length < fuel + 1) {sweep s later : Sweep}
    (hclosed : Closed p text sweep b.length)
    (hs : ∀ m, tried s m ↔ m = b.length ∨ tried sweep m)
    (hsleave : ∀ u ∈ sweep.leaving, u ∈ s.leaving)
    (hseen : later.seen = ((p.ends ⟨.between b a, caps, []⟩).foldl
      (p.goOn greedy fuel b.length) s).seen)
    (hleave : ∀ u ∈ ((p.ends ⟨.between b a, caps, []⟩).foldl
      (p.goOn greedy fuel b.length) s).leaving, u ∈ later.leaving)
    (hself : (⟨.between b a, caps, []⟩ : Thread) ∈ s.leaving ∨
      (⟨.between b a, caps, []⟩ : Thread) ∈ later.leaving) :
    Settled p text sweep later b.length := by
  have hs1 : Closed p text s (b.length + 1) := by
    intro b' a' ht hn hd
    have hd' : tried sweep b'.length := ((hs _).1 hd).resolve_left (by omega)
    obtain ⟨⟨u, hu, hplace⟩, hnext⟩ := hclosed b' a' ht (by omega) hd'
    exact ⟨⟨u, hsleave u hu, hplace⟩,
      fun v r k hr hv hk => (hs _).2 (.inr (hnext v r k hr hv hk))⟩
  obtain ⟨h1, h2, h3⟩ := closed_foldl_goOn hsettles htext hfuel (fun v hv => hsound rfl hv) hs1
  have htried : ∀ m, tried later m ↔ tried ((p.ends ⟨.between b a, caps, []⟩).foldl
      (p.goOn greedy fuel b.length) s) m := fun m => by simp only [tried, hseen]
  refine ⟨?_, ?_, (htried _).2 (h2.tried_of_tried _ ((hs _).2 (.inl rfl)))⟩
  · intro b' a' ht hn hd
    rcases Nat.lt_or_eq_of_le hn with hn | hn
    · obtain ⟨⟨u, hu, hplace⟩, hnext⟩ := h1 b' a' ht hn ((htried _).1 hd)
      exact ⟨⟨u, hleave u hu, hplace⟩,
        fun v r k hr hv hk => (htried _).2 (hnext v r k hr hv hk)⟩
    · -- the place of the thread itself
      obtain ⟨hb, rfl⟩ := List.append_inj (ht.trans htext.symm) (by simpa using hn.symm)
      obtain rfl := List.reverse_inj.1 hb
      have hself' := hself.elim (fun h => hleave _ (h2.mem_of_mem _ h)) id
      exact closed_at_of_ends hcomplete hself' fun u hu hlt => (htried _).2 (h3 u hu hlt)
  · refine ⟨fun m h => (htried m).2 (h2.tried_of_tried m ((hs m).2 (.inr h))),
      fun u hu => hleave u (h2.mem_of_mem u (hsleave u hu)), fun m h => ?_⟩
    rcases h2.le_of_tried m ((htried m).1 h) with h | h
    · rcases (hs m).1 h with rfl | h
      · exact .inr (Nat.le_refl _)
      · exact .inl h
    · exact .inr (by omega)

/-- Rounds from a thread settle what is left of the text if the fuel lasts for it. -/
theorem settles {p : Pattern} {greedy : Bool} {text : Text} (hsound : p.Sound)
    (hcomplete : p.Complete) (fuel : Nat) : Settles p greedy text fuel := by
  induction fuel with
  | zero => exact fun b a caps sweep _ h => absurd h (Nat.not_lt_zero _)
  | succ fuel ih =>
      intro b a caps sweep htext hfuel hclosed
      have hvisit : ∀ m, tried (sweep.visit 0 ⟨.between b a, caps, []⟩) m ↔
          m = b.length ∨ tried sweep m := fun m => tried_visit rfl m
      rw [rounds_succ]
      by_cases hseen : sweep.visited 0 ⟨.between b a, caps, []⟩ = true
      · rw [if_pos hseen]
        exact ⟨hclosed, .refl sweep _, hseen⟩
      · rw [if_neg hseen]
        by_cases hgreedy : greedy = true
        · rw [if_pos hgreedy]
          exact settled_of_foldl hsound hcomplete ih htext hfuel hclosed hvisit (fun u hu => hu)
            rfl (fun u hu => List.mem_cons_of_mem _ hu) (.inr List.mem_cons_self)
        · rw [if_neg hgreedy]
          exact settled_of_foldl hsound hcomplete ih htext hfuel hclosed
            (s := (sweep.visit 0 ⟨.between b a, caps, []⟩).leave ⟨.between b a, caps, []⟩)
            hvisit (fun u hu => List.mem_cons_of_mem _ hu) rfl (fun u hu => hu)
            (.inl List.mem_cons_self)

/-- Two threads that a pattern leads to from one thread are at one place if as many
characters stand before them. -/
theorem Leads.place_eq {p q : Pattern} {t u v : Thread} (hu : p.Leads t u) (hv : q.Leads t v)
    (h : u.place.offset = v.place.offset) : u.place = v.place := by
  obtain ⟨w, a, k, hafter, -, rfl⟩ := hu
  obtain ⟨w', a', k', hafter', -, rfl⟩ := hv
  simp only [Cursor.offset_between, List.length_append, List.length_reverse] at h
  obtain ⟨rfl, rfl⟩ := List.append_inj (hafter.symm.trans hafter') (by omega)
  rfl

/-- If a pattern leads to a thread of a list, then it leads to one at the same place
that is not superfluous. -/
theorem exists_mem_distinct_place {p : Pattern} {t u : Thread} {us : List Thread}
    (hus : ∀ v ∈ us, p.Leads t v) (hu : u ∈ us) :
    ∃ v ∈ Thread.distinct us, v.place = u.place := by
  obtain ⟨v, hv, hkey⟩ := Thread.exists_mem_distinct hu
  have hoffset : v.place.offset = u.place.offset := (List.cons.inj hkey).1
  exact ⟨v, hv, (hus v (Thread.mem_of_mem_distinct hv)).place_eq (hus u hu) hoffset⟩

/-- Of the places that a repetition reaches, none is left out by a closed sweep. -/
theorem Closed.exists_mem_leaving {p : Pattern} {greedy : Bool} {text : Text} {sweep : Sweep}
    {b w a : Text} {k : Captures} (h : (star none greedy p).Takes b w a k)
    (htext : b.reverse ++ (w ++ a) = text) {n : Nat} (hn : n ≤ b.length)
    (hclosed : Closed p text sweep n) (htried : tried sweep b.length) :
    ∃ u ∈ sweep.leaving, u.place = .between (w.reverse ++ b) a := by
  generalize hp : star none greedy p = q at h
  induction h with
  | starNil => exact (hclosed _ _ htext hn htried).1
  | @starCons mark' greedy' p' b v w a k l hv htakes _ _ ih =>
      cases hp
      have hnext := (hclosed b (v ++ (w ++ a)) (by simpa using htext) hn htried).2
        v (w ++ a) k rfl hv htakes
      have hlen : (v.reverse ++ b).length = b.length + v.length := by simp [Nat.add_comm]
      simpa using ih (by simpa using htext) (by omega) (hlen ▸ hnext) rfl
  | _ => cases hp

theorem complete_empty : empty.Complete := by
  intro b w a k caps h
  cases h
  exact ⟨_, List.mem_singleton_self _, rfl⟩

theorem complete_word (cs : Text) : (word cs).Complete := by
  intro b w a k caps h
  cases h
  have hafter : Cursor.afterWord? cs (.between b (cs ++ a)) =
      some (.between (cs.reverse ++ b) a) := Cursor.afterWord?_eq_some_iff.2 ⟨a, rfl, rfl⟩
  simp [ends, hafter, Thread.moveTo]

theorem complete_one (set : CharSet) : (one set).Complete := by
  intro b w a k caps h
  cases h with
  | one h => simp [ends, h, Thread.moveTo]; rfl

theorem complete_look (anchor : Anchor) : (look anchor).Complete := by
  intro b w a k caps h
  cases h with
  | look h => simp [ends, h]

theorem Complete.seq {p q : Pattern} (hp : p.Complete) (hq : q.Complete) (hsp : p.Sound)
    (hsq : q.Sound) : (seq p q).Complete := by
  intro b w a k caps h
  cases h with
  | @seq _ _ _ v w _ k l htakes htakes' =>
      obtain ⟨t, ht, htplace⟩ := hp caps htakes
      have hcrossed := (hsp rfl ht).crossed
      obtain ⟨place, caps', crossed⟩ := t
      obtain rfl : crossed = [] := hcrossed
      obtain rfl : place = _ := htplace
      obtain ⟨u, hu, huplace⟩ := hq caps' htakes'
      obtain ⟨x, hx, hxplace⟩ := exists_mem_distinct_place
        (fun x hx => hsp.leads_of_mem_flatMap hsq rfl hx) (List.mem_flatMap.2 ⟨_, ht, hu⟩)
      rw [List.append_assoc]
      exact ⟨x, hx, by simp [hxplace, huplace]⟩

theorem Complete.alt {p q : Pattern} (hp : p.Complete) (hq : q.Complete) (hsp : p.Sound)
    (hsq : q.Sound) : (alt none p q).Complete := by
  intro b w a k caps h
  obtain ⟨u, hu, huplace⟩ : ∃ u ∈ p.ends ⟨.between b (w ++ a), caps, []⟩ ++
      q.ends ⟨.between b (w ++ a), caps, []⟩, u.place = .between (w.reverse ++ b) a := by
    cases h with
    | altLeft h =>
        obtain ⟨u, hu, huplace⟩ := hp caps h
        exact ⟨u, List.mem_append_left _ hu, huplace⟩
    | altRight h =>
        obtain ⟨u, hu, huplace⟩ := hq caps h
        exact ⟨u, List.mem_append_right _ hu, huplace⟩
  obtain ⟨x, hx, hxplace⟩ := exists_mem_distinct_place
    (fun x hx => hsp.leads_of_mem_append hsq rfl hx) hu
  exact ⟨x, hx, hxplace.trans huplace⟩

theorem Complete.group {p : Pattern} (hp : p.Complete) (index : Nat) :
    (group index p).Complete := by
  intro b w a k caps h
  cases h with
  | group h =>
      obtain ⟨u, hu, huplace⟩ := hp caps h
      exact ⟨_, List.mem_map.2 ⟨u, hu, rfl⟩, huplace⟩

theorem complete_run (greedy : Bool) (set : CharSet) : (run none greedy set).Complete := by
  intro b w a k caps h
  cases h with
  | run h =>
      refine ⟨⟨.between (w.reverse ++ b) a, caps, []⟩, ?_, rfl⟩
      simp only [ends, Thread.cross?]
      split
      · exact mem_along_of_run h
      · exact List.mem_reverse.2 (mem_along_of_run h)

theorem Complete.star {p : Pattern} (hp : p.Complete) (hsp : p.Sound) (greedy : Bool) :
    (star none greedy p).Complete := by
  intro b w a k caps h
  -- Before the first round the sweep is empty, so it is closed.
  have hnone : Closed p (b.reverse ++ (w ++ a)) {} b.length :=
    fun b' a' _ _ h => by simp [tried] at h
  have hsettles : Settles p greedy (b.reverse ++ (w ++ a)) ((w ++ a).length + 1) :=
    settles hsp hp _
  have hsettled := hsettles b (w ++ a) caps {} rfl (Nat.lt_succ_self _) hnone
  obtain ⟨u, hu, huplace⟩ := hsettled.closed.exists_mem_leaving h rfl (Nat.le_refl _)
    hsettled.tried_start
  have hleads : ∀ x ∈ (Sweep.rounds p.ends none greedy ((w ++ a).length + 1)
      ⟨.between b (w ++ a), caps, []⟩ {}).leaving.reverse,
      (Pattern.star none greedy p).Leads ⟨.between b (w ++ a), caps, []⟩ x := by
    intro x hx
    exact (hsp.leads_of_mem_rounds _ _ x {} rfl (List.mem_reverse.1 hx)).resolve_left (by simp)
  obtain ⟨x, hx, hxplace⟩ := exists_mem_distinct_place hleads (List.mem_reverse.2 hu)
  exact ⟨x, hx, hxplace.trans huplace⟩

/-- For every word that a plain pattern takes, some thread leaves the pattern behind it. -/
theorem complete_of_isPlain {p : Pattern} (hp : p.isPlain = true) : p.Complete := by
  induction p with
  | empty => exact complete_empty
  | word cs => exact complete_word cs
  | one set => exact complete_one set
  | look anchor => exact complete_look anchor
  | seq p q ihp ihq =>
      simp only [isPlain, Bool.and_eq_true] at hp
      exact (ihp hp.1).seq (ihq hp.2) (sound_of_isPlain hp.1) (sound_of_isPlain hp.2)
  | alt mark p q ihp ihq =>
      simp only [isPlain, Bool.and_eq_true, Option.isNone_iff_eq_none] at hp
      obtain ⟨⟨rfl, hp⟩, hq⟩ := hp
      exact (ihp hp).alt (ihq hq) (sound_of_isPlain hp) (sound_of_isPlain hq)
  | group index p ihp => exact (ihp hp).group index
  | run mark greedy set =>
      simp only [isPlain, Option.isNone_iff_eq_none] at hp
      subst hp
      exact complete_run greedy set
  | star mark greedy p ihp =>
      simp only [isPlain, Bool.and_eq_true, Option.isNone_iff_eq_none] at hp
      obtain ⟨rfl, hp⟩ := hp
      exact (ihp hp).star (sound_of_isPlain hp) greedy
  | rounds mark greedy p => simp [isPlain] at hp
  | upTo limit greedy p => simp [isPlain] at hp
  | region p => simp [isPlain] at hp

end Pattern
end CodeMigration
