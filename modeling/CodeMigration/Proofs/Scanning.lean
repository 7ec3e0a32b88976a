import CodeMigration.Proofs.Reading

/-!
# CodeMigration.Proofs.Scanning

The matches of a pattern in a text, found one place after another. `Pattern.Scans`
follows the search from place to place: at each place the pattern does not fit and
the search moves on by one character, or it fits and the search goes on behind the
match. What is proved of all matches of a text is proved by induction on that.

All of it is about plain patterns that take at least one character (`isSolid`), so
empty matches need no care.
-/

namespace CodeMigration

/-- The match that takes a word between two texts, the first of them reversed. -/
def Match.taken (b w a : Text) (k : Captures) : Match :=
  ⟨.between b (w ++ a), .between (w.reverse ++ b) a, k⟩

@[simp] theorem Match.start_taken (b w a : Text) (k : Captures) :
    (Match.taken b w a k).start = .between b (w ++ a) := rfl

@[simp] theorem Match.stop_taken (b w a : Text) (k : Captures) :
    (Match.taken b w a k).stop = .between (w.reverse ++ b) a := rfl

@[simp] theorem Cursor.textUntil_between (b w a : Text) :
    (Cursor.between b (w ++ a)).textUntil (.between (w.reverse ++ b) a) = w := by
  simp [Cursor.textUntil]

@[simp] theorem Match.text_taken (b w a : Text) (k : Captures) :
    (Match.taken b w a k).text = w := Cursor.textUntil_between b w a

namespace Pattern

/-- Can the pattern take something at the place? -/
def Fits (p : Pattern) (b a : Text) : Prop := ∃ w r k, a = w ++ r ∧ p.Takes b w r k

theorem Takes.fits {p : Pattern} {b w a : Text} {k : Captures} (h : p.Takes b w a k) :
    p.Fits b (w ++ a) := ⟨w, a, k, rfl, h⟩

/-- Does the pattern take at least one character? -/
def isSolid : Pattern → Bool
  | word cs => !cs.isEmpty
  | one _ => true
  | seq p q => p.isSolid || q.isSolid
  | alt _ p q => p.isSolid && q.isSolid
  | group _ p => p.isSolid
  | _ => false

theorem Takes.ne_nil {p : Pattern} {b w a : Text} {k : Captures} (h : p.Takes b w a k)
    (hp : p.isSolid = true) : w ≠ [] := by
  induction h with
  | word => simpa [isSolid] using hp
  | one => simp
  | seq _ _ ihp ihq =>
      simp only [isSolid, Bool.or_eq_true] at hp
      rcases hp with hp | hp
      · simp [ihp hp]
      · simp [ihq hp]
  | altLeft _ ih => exact ih (by simp [isSolid] at hp; exact hp.1)
  | altRight _ ih => exact ih (by simp [isSolid] at hp; exact hp.2)
  | group _ ih => exact ih hp
  | _ => simp [isSolid] at hp

theorem matchAt?_eq_some {p : Pattern} (hp : p.isPlain = true) {b a : Text} {m : Match}
    (h : p.matchAt? (.between b a) = some m) :
    ∃ w r k, a = w ++ r ∧ p.Takes b w r k ∧ m = .taken b w r k := by
  unfold matchAt? at h
  split at h
  · cases h
  · next t ts hends =>
    have hmem : t ∈ p.ends (Thread.enter (.between b a)) := by simp [hends]
    obtain ⟨w, r, k, hafter, htakes, rfl⟩ := sound_of_isPlain hp rfl hmem
    simp only [Thread.enter, Cursor.after_between] at hafter
    subst hafter
    refine ⟨w, r, k, rfl, htakes, ?_⟩
    simpa [Match.taken, Thread.enter] using h.symm

theorem fits_of_matchAt? {p : Pattern} (hp : p.isPlain = true) {b a : Text} {m : Match}
    (h : p.matchAt? (.between b a) = some m) : p.Fits b a := by
  obtain ⟨w, r, k, rfl, htakes, -⟩ := matchAt?_eq_some hp h
  exact htakes.fits

theorem matchAt?_eq_none_iff {p : Pattern} (hp : p.isPlain = true) {b a : Text} :
    p.matchAt? (.between b a) = none ↔ ¬ p.Fits b a := by
  constructor
  · rintro h ⟨w, r, k, rfl, htakes⟩
    obtain ⟨u, hu, -⟩ := complete_of_isPlain hp [] htakes
    unfold matchAt? at h
    split at h
    · next hends =>
      have hends' : p.ends ⟨.between b (w ++ r), [], []⟩ = [] := hends
      rw [hends'] at hu
      cases hu
    · cases h
  · intro h
    cases hm : p.matchAt? (.between b a) with
    | none => rfl
    | some m =>
        obtain ⟨w, r, k, rfl, htakes, -⟩ := matchAt?_eq_some hp hm
        exact absurd htakes.fits h

/-! ### Searching -/

theorem findFrom?_of_matchAt? {p : Pattern} {place : Cursor} {m : Match}
    (h : p.matchAt? place = some m) : p.findFrom? place = some m := by
  rw [findFrom?, h]

theorem findFrom?_skip {p : Pattern} {b a : Text} {x : Char}
    (h : p.matchAt? (.between b (x :: a)) = none) :
    p.findFrom? (.between b (x :: a)) = p.findFrom? (.between (x :: b) a) := by
  rw [findFrom?, h]
  rfl

theorem findFrom?_nil {p : Pattern} {b : Text} (h : p.matchAt? (.between b []) = none) :
    p.findFrom? (.between b []) = none := by
  rw [findFrom?, h]
  rfl

/-- A match of a solid pattern ends behind the place from which it is searched. -/
theorem stop_of_findFrom? {p : Pattern} (hp : p.isPlain = true) (hs : p.isSolid = true)
    {b a : Text} {m : Match} (h : p.findFrom? (.between b a) = some m) :
    m.isEmpty = false ∧ m.stop.after.length < a.length := by
  induction a generalizing b with
  | nil =>
      cases hm : p.matchAt? (.between b []) with
      | none => rw [findFrom?_nil hm] at h; cases h
      | some m' =>
          obtain ⟨w, r, k, hafter, htakes, -⟩ := matchAt?_eq_some hp hm
          exact absurd (List.append_eq_nil_iff.1 hafter.symm).1 (htakes.ne_nil hs)
  | cons x a ih =>
      cases hm : p.matchAt? (.between b (x :: a)) with
      | none =>
          rw [findFrom?_skip hm] at h
          have := ih h
          exact ⟨this.1, by simp; omega⟩
      | some m' =>
          rw [findFrom?_of_matchAt? hm, Option.some.injEq] at h
          subst h
          obtain ⟨w, r, k, hafter, htakes, rfl⟩ := matchAt?_eq_some hp hm
          have hw : 0 < w.length := List.length_pos_iff.2 (htakes.ne_nil hs)
          simp only [Match.isEmpty, Match.start_taken, Match.stop_taken, Cursor.offset_between,
            Cursor.after_between, hafter, List.length_append, List.length_reverse,
            beq_eq_false_iff_ne]
          omega

/-- The search finds the match at the first place where the pattern fits. -/
theorem exists_of_findFrom? {p : Pattern} (hp : p.isPlain = true) {b a : Text} {m : Match}
    (h : p.findFrom? (.between b a) = some m) :
    ∃ u v, a = u ++ v ∧ p.matchAt? (.between (u.reverse ++ b) v) = some m ∧
      ∀ x y, u = x ++ y → y ≠ [] → ¬ p.Fits (x.reverse ++ b) (y ++ v) := by
  induction a generalizing b with
  | nil =>
      cases hm : p.matchAt? (.between b []) with
      | none =>
          rw [findFrom?_nil hm] at h
          cases h
      | some m' =>
          rw [findFrom?_of_matchAt? hm] at h
          exact ⟨[], [], rfl, hm.trans h, by simp⟩
  | cons c a ih =>
      cases hm : p.matchAt? (.between b (c :: a)) with
      | none =>
          rw [findFrom?_skip hm] at h
          obtain ⟨u, v, rfl, hmatch, hno⟩ := ih h
          refine ⟨c :: u, v, rfl, by simpa using hmatch, fun x y hxy hy => ?_⟩
          cases x with
          | nil =>
              obtain rfl : c :: u = y := hxy
              exact (matchAt?_eq_none_iff hp).1 hm
          | cons d x =>
              obtain ⟨rfl, hu⟩ := List.cons.inj hxy
              simpa using hno x y hu hy
      | some m' =>
          rw [findFrom?_of_matchAt? hm] at h
          exact ⟨[], c :: a, rfl, hm.trans h, by simp⟩

theorem findAfter?_eq {p : Pattern} (hp : p.isPlain = true) (hs : p.isSolid = true) (b a : Text) :
    p.findAfter? (.between b a) = p.findFrom? (.between b a) := by
  unfold findAfter?
  cases h : p.findFrom? (.between b a) with
  | none => rfl
  | some m => simp [(stop_of_findFrom? hp hs h).1]

theorem matchesAfter_eq {p : Pattern} (hp : p.isPlain = true) (hs : p.isSolid = true)
    (b a : Text) : p.matchesAfter (.between b a) =
      match p.findFrom? (.between b a) with
      | none => []
      | some m => m :: p.matchesAfter m.stop := by
  rw [matchesAfter, findAfter?_eq hp hs]
  cases h : p.findFrom? (.between b a) with
  | none => rfl
  | some m => simp [(stop_of_findFrom? hp hs h).2]

theorem matchesIn_eq {p : Pattern} (hp : p.isPlain = true) (hs : p.isSolid = true) (text : Text) :
    p.matchesIn text = p.matchesAfter (.between [] text) := by
  rw [matchesAfter_eq hp hs]
  rfl

/-- The matches of a pattern from a place on, found one place after another. -/
inductive Scans (p : Pattern) : Text → Text → List Match → Prop
  | done {b : Text} (h : ¬ p.Fits b []) : Scans p b [] []
  | skip {b a : Text} {x : Char} {ms : List Match} (h : ¬ p.Fits b (x :: a))
      (hs : Scans p (x :: b) a ms) : Scans p b (x :: a) ms
  | found {b w a : Text} {k : Captures} {ms : List Match}
      (hm : p.matchAt? (.between b (w ++ a)) = some (.taken b w a k))
      (ht : p.Takes b w a k) (hw : w ≠ []) (hs : Scans p (w.reverse ++ b) a ms) :
      Scans p b (w ++ a) (.taken b w a k :: ms)

theorem scans_matchesAfter {p : Pattern} (hp : p.isPlain = true) (hs : p.isSolid = true)
    (b a : Text) : Scans p b a (p.matchesAfter (.between b a)) := by
  induction hn : a.length using Nat.strongRecOn generalizing b a with
  | ind n ih =>
      cases hm : p.matchAt? (.between b a) with
      | some m =>
          obtain ⟨w, r, k, rfl, htakes, rfl⟩ := matchAt?_eq_some hp hm
          have hw := htakes.ne_nil hs
          have hpos : 0 < w.length := List.length_pos_iff.2 hw
          rw [matchesAfter_eq hp hs, findFrom?_of_matchAt? hm]
          refine .found hm htakes hw (ih r.length ?_ _ _ rfl)
          simp only [List.length_append] at hn
          omega
      | none =>
          have hfits := (matchAt?_eq_none_iff hp).1 hm
          rw [matchesAfter_eq hp hs]
          cases a with
          | nil =>
              rw [findFrom?_nil hm]
              exact .done hfits
          | cons x a =>
              rw [findFrom?_skip hm, ← matchesAfter_eq hp hs]
              exact .skip hfits (ih a.length (by simp at hn; omega) _ _ rfl)

/-- The matches in a text are found one place after another. -/
theorem scans_matchesIn {p : Pattern} (hp : p.isPlain = true) (hs : p.isSolid = true)
    (text : Text) : Scans p [] text (p.matchesIn text) := by
  rw [matchesIn_eq hp hs]
  exact scans_matchesAfter hp hs [] text

/-- Every match takes a word of the text at its place. -/
theorem Scans.exists_taken {p : Pattern} {b a : Text} {ms : List Match} (h : Scans p b a ms) :
    ∀ m ∈ ms, ∃ b' w r k, m = .taken b' w r k ∧ p.Takes b' w r k ∧
      b.reverse ++ a = b'.reverse ++ w ++ r := by
  induction h with
  | done => simp
  | skip _ _ ih => simpa using ih
  | @found b w a k ms _ ht _ _ ih =>
      intro m hm
      rcases List.mem_cons.1 hm with rfl | hm
      · exact ⟨b, w, a, k, rfl, ht, by simp⟩
      · simpa using ih m hm

theorem Scans.eq_nil {p : Pattern} {b : Text} {ms : List Match} (h : Scans p b [] ms) : ms = [] := by
  generalize hy : ([] : Text) = y at h
  cases h with
  | done => rfl
  | skip => cases hy
  | found _ _ hw => exact absurd (List.append_eq_nil_iff.1 hy.symm).1 hw

theorem Scans.of_not_fits {p : Pattern} {b a : Text} {x : Char} {ms : List Match}
    (h : Scans p b (x :: a) ms) (hfits : ¬ p.Fits b (x :: a)) : Scans p (x :: b) a ms := by
  generalize hy : x :: a = y at h
  cases h with
  | done => cases hy
  | skip _ hs =>
      obtain ⟨rfl, rfl⟩ := List.cons.inj hy
      exact hs
  | found _ ht =>
      rw [hy] at hfits
      exact absurd ht.fits hfits

theorem Scans.of_fits {p : Pattern} {b a : Text} {ms : List Match} (h : Scans p b a ms)
    (hfits : p.Fits b a) : ∃ w r k ms', a = w ++ r ∧ p.Takes b w r k ∧
      p.matchAt? (.between b a) = some (.taken b w r k) ∧ ms = .taken b w r k :: ms' ∧
      Scans p (w.reverse ++ b) r ms' := by
  cases h with
  | done hno => exact absurd hfits hno
  | skip hno => exact absurd hfits hno
  | found hm ht _ hs => exact ⟨_, _, _, _, rfl, ht, hm, rfl, hs⟩

theorem Scans.of_append {p : Pattern} {b w a : Text} {ms : List Match} (h : Scans p b (w ++ a) ms)
    (hno : ∀ u v, w = u ++ v → v ≠ [] → ¬ p.Fits (u.reverse ++ b) (v ++ a)) :
    Scans p (w.reverse ++ b) a ms := by
  induction w generalizing b with
  | nil => exact h
  | cons x w ih =>
      have hx := hno [] (x :: w) rfl (List.cons_ne_nil x w)
      rw [List.reverse_cons, List.append_assoc]
      refine ih (h.of_not_fits hx) fun u v huv hv => ?_
      have := hno (x :: u) v (by rw [huv]; rfl) hv
      simpa using this

theorem matchesIn_ne_nil_iff {p : Pattern} {text : Text} :
    p.matchesIn text ≠ [] ↔ p.isMatch text = true := by
  unfold matchesIn isMatch
  cases p.find? text <;> simp

/-- Does the pattern fit at the place or somewhere behind it? -/
def Occurs (p : Pattern) (b a : Text) : Prop := ∃ v r, a = v ++ r ∧ p.Fits (v.reverse ++ b) r

theorem occurs_nil_iff {p : Pattern} {b : Text} : p.Occurs b [] ↔ p.Fits b [] := by
  constructor
  · rintro ⟨v, r, h, hfits⟩
    obtain ⟨rfl, rfl⟩ := List.append_eq_nil_iff.1 h.symm
    exact hfits
  · exact fun h => ⟨[], [], rfl, h⟩

theorem occurs_cons_iff {p : Pattern} {b a : Text} {x : Char} :
    p.Occurs b (x :: a) ↔ p.Fits b (x :: a) ∨ p.Occurs (x :: b) a := by
  constructor
  · rintro ⟨v, r, h, hfits⟩
    cases v with
    | nil => exact .inl (by rw [h]; exact hfits)
    | cons y v =>
        obtain ⟨rfl, rfl⟩ := List.cons.inj h
        exact .inr ⟨v, r, rfl, by simpa using hfits⟩
  · rintro (h | ⟨v, r, rfl, hfits⟩)
    · exact ⟨[], x :: a, rfl, h⟩
    · exact ⟨x :: v, r, rfl, by simpa using hfits⟩

theorem isSome_findFrom?_iff {p : Pattern} (hp : p.isPlain = true) (b a : Text) :
    (p.findFrom? (.between b a)).isSome = true ↔ p.Occurs b a := by
  induction a generalizing b with
  | nil =>
      rw [occurs_nil_iff]
      cases hm : p.matchAt? (.between b []) with
      | none => simp [findFrom?_nil hm, (matchAt?_eq_none_iff hp).1 hm]
      | some m => simp [findFrom?_of_matchAt? hm, fits_of_matchAt? hp hm]
  | cons x a ih =>
      rw [occurs_cons_iff]
      cases hm : p.matchAt? (.between b (x :: a)) with
      | none => simp [findFrom?_skip hm, (matchAt?_eq_none_iff hp).1 hm, ih]
      | some m => simp [findFrom?_of_matchAt? hm, fits_of_matchAt? hp hm]

theorem isMatch_iff {p : Pattern} (hp : p.isPlain = true) (text : Text) :
    p.isMatch text = true ↔ p.Occurs [] text := isSome_findFrom?_iff hp [] text

/-! ### Replacing -/

theorem Scans.le_start {p : Pattern} {b a : Text} {ms : List Match} (h : Scans p b a ms) :
    ∀ m ∈ ms, b.length ≤ m.start.offset := by
  induction h with
  | done => simp
  | skip _ _ ih =>
      intro m hm
      have := ih m hm
      simp only [List.length_cons] at this
      omega
  | found _ _ _ _ ih =>
      intro m hm
      rcases List.mem_cons.1 hm with rfl | hm
      · simp
      · have := ih m hm
        simp only [List.length_append] at this
        omega

theorem spliceFrom_skip {replace : Match → Text} {b a : Text} {x : Char} {ms : List Match}
    (h : ∀ m ∈ ms, b.length < m.start.offset) :
    spliceFrom replace (.between b (x :: a)) ms =
      x :: spliceFrom replace (.between (x :: b) a) ms := by
  cases ms with
  | nil => rfl
  | cons m ms =>
      have hm := h m List.mem_cons_self
      have htake : m.start.offset - b.length = m.start.offset - (b.length + 1) + 1 := by omega
      simp [spliceFrom, Cursor.textUntil, htake]

/-- What stands before the first match stays. -/
theorem Scans.spliceFrom_append {p : Pattern} {replace : Match → Text} {b w a : Text}
    {ms : List Match} (h : Scans p b (w ++ a) ms)
    (hno : ∀ u v, w = u ++ v → v ≠ [] → ¬ p.Fits (u.reverse ++ b) (v ++ a)) :
    spliceFrom replace (.between b (w ++ a)) ms =
      w ++ spliceFrom replace (.between (w.reverse ++ b) a) ms := by
  induction w generalizing b with
  | nil => rfl
  | cons x w ih =>
      have hs := h.of_not_fits (hno [] (x :: w) rfl (List.cons_ne_nil x w))
      rw [List.cons_append, spliceFrom_skip fun m hm => hs.le_start m hm, ih hs fun u v huv hv => ?_]
      · simp
      · have := hno (x :: u) v (by rw [huv]; rfl) hv
        simpa using this

theorem spliceFrom_found {replace : Match → Text} {b w a : Text} {k : Captures}
    {ms : List Match} :
    spliceFrom replace (.between b (w ++ a)) (.taken b w a k :: ms) =
      replace (.taken b w a k) ++ spliceFrom replace (.between (w.reverse ++ b) a) ms := by
  simp [spliceFrom, Cursor.textUntil]

theorem replaceAll_eq (p : Pattern) (replace : Match → Text) (text : Text) :
    p.replaceAll replace text = spliceFrom replace (.between [] text) (p.matchesIn text) := rfl

/-- Another match begins inside the match. -/
def Hides (p : Pattern) (m : Match) : Prop :=
  ∃ v w, m.text = v ++ w ∧ v ≠ [] ∧ w ≠ [] ∧
    p.Fits (v.reverse ++ m.start.before) (w ++ m.stop.after)

/-- A search whose matches hide no other finds the pattern wherever it fits. -/
theorem Scans.exists_mem_of_fits {p : Pattern} {b a : Text} {ms : List Match} (h : Scans p b a ms)
    (hno : ∀ m ∈ ms, ¬ p.Hides m) {u v : Text} (ha : a = u ++ v)
    (hfits : p.Fits (u.reverse ++ b) v) :
    ∃ w r k, v = w ++ r ∧ p.Takes (u.reverse ++ b) w r k ∧ .taken (u.reverse ++ b) w r k ∈ ms := by
  induction h generalizing u with
  | done hend =>
      obtain ⟨rfl, rfl⟩ := List.append_eq_nil_iff.1 ha.symm
      exact absurd hfits hend
  | @skip b a x ms hskip _ ih =>
      cases u with
      | nil => exact absurd (ha ▸ hfits) hskip
      | cons y u =>
          obtain ⟨rfl, htail⟩ := List.cons.inj ha
          simpa using ih hno htail (by simpa using hfits)
  | @found b w a k ms _ ht _ _ ih =>
      obtain ⟨hfirst, hlater⟩ := List.forall_mem_cons.1 hno
      have hbehind : ∀ u', u = w ++ u' → a = u' ++ v → ∃ w' r k', v = w' ++ r ∧
          p.Takes (u.reverse ++ b) w' r k' ∧
          .taken (u.reverse ++ b) w' r k' ∈ .taken b w a k :: ms := by
        intro u' hu hrest
        have hplace : u.reverse ++ b = u'.reverse ++ (w.reverse ++ b) := by simp [hu]
        rw [hplace] at hfits ⊢
        obtain ⟨w', r, k', hv, htakes, hmem⟩ := ih hlater hrest hfits
        exact ⟨w', r, k', hv, htakes, List.mem_cons_of_mem _ hmem⟩
      rcases List.append_eq_append_iff.1 ha with ⟨u', hu, hrest⟩ | ⟨w', hw, hv⟩
      · exact hbehind u' hu hrest
      · cases u with
        | nil => exact ⟨w, a, k, by rw [hw, hv]; rfl, ht, List.mem_cons_self⟩
        | cons y u =>
            cases w' with
            | nil => exact hbehind [] (by simpa using hw.symm) (by simpa using hv.symm)
            | cons z w' =>
                refine absurd ⟨y :: u, z :: w', ?_, List.cons_ne_nil y u, List.cons_ne_nil z w', ?_⟩
                  hfirst
                · rw [Match.text_taken, hw]
                · rw [hv] at hfits
                  exact hfits

end Pattern
end CodeMigration
