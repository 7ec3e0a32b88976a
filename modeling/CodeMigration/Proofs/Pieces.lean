import CodeMigration.Proofs.Scanning

/-!
# CodeMigration.Proofs.Pieces

A text and what a substitution makes of it, side by side. The two are cut into
pieces: characters that stay, and parts of the old text that give way to parts of the
new one. Read one way the pieces spell the old text, read the other way the new one.

The question is always where a pattern fits in the new text. If it fits at a character
that stays just where it fits at that character in the old text, and nowhere inside a
new part, then the matches of the new text are those of the old text at characters
that stay (`Pattern.occurs_newText_iff`). For the substituted pattern itself these are
the matches that begin inside another match (`exists_pieces`): nothing else is left
behind by a substitution.
-/

namespace CodeMigration

/-- A piece of a text that is rewritten. -/
inductive Piece
  /-- A character that stays. -/
  | kept (c : Char)
  /-- A part that gives way to another. -/
  | swapped (old new : Text)

namespace Piece

/-- What the piece was before. -/
def old : Piece → Text
  | kept c => [c]
  | swapped o _ => o

/-- What the piece is afterwards. -/
def new : Piece → Text
  | kept c => [c]
  | swapped _ n => n

/-- The text before. -/
def oldText (ps : List Piece) : Text := ps.flatMap old

/-- The text afterwards. -/
def newText (ps : List Piece) : Text := ps.flatMap new

@[simp] theorem oldText_nil : oldText [] = [] := rfl
@[simp] theorem newText_nil : newText [] = [] := rfl

@[simp] theorem oldText_kept (c : Char) (ps : List Piece) :
    oldText (kept c :: ps) = c :: oldText ps := rfl

@[simp] theorem newText_kept (c : Char) (ps : List Piece) :
    newText (kept c :: ps) = c :: newText ps := rfl

@[simp] theorem oldText_swapped (o n : Text) (ps : List Piece) :
    oldText (swapped o n :: ps) = o ++ oldText ps := rfl

@[simp] theorem newText_swapped (o n : Text) (ps : List Piece) :
    newText (swapped o n :: ps) = n ++ newText ps := rfl

@[simp] theorem oldText_append (ps qs : List Piece) :
    oldText (ps ++ qs) = oldText ps ++ oldText qs := List.flatMap_append

@[simp] theorem newText_append (ps qs : List Piece) :
    newText (ps ++ qs) = newText ps ++ newText qs := List.flatMap_append

@[simp] theorem oldText_map_kept (w : Text) : oldText (w.map kept) = w := by
  induction w with
  | nil => rfl
  | cons c w ih => rw [List.map_cons, oldText_kept, ih]

@[simp] theorem newText_map_kept (w : Text) : newText (w.map kept) = w := by
  induction w with
  | nil => rfl
  | cons c w ih => rw [List.map_cons, newText_kept, ih]

/-- Every part that gives way and the part that takes its place are of the given kind. -/
def All (Q : Text → Text → Prop) (ps : List Piece) : Prop := ∀ o n, swapped o n ∈ ps → Q o n

theorem All.of_cons {Q : Text → Text → Prop} {p : Piece} {ps : List Piece}
    (h : All Q (p :: ps)) : All Q ps := fun o n hmem => h o n (List.mem_cons_of_mem p hmem)

theorem All.head {Q : Text → Text → Prop} {o n : Text} {ps : List Piece}
    (h : All Q (swapped o n :: ps)) : Q o n := h o n List.mem_cons_self

theorem All.imp {Q R : Text → Text → Prop} {ps : List Piece} (h : All Q ps)
    (hQR : ∀ o n, Q o n → R o n) : All R ps := fun o n hmem => hQR o n (h o n hmem)

theorem All.append {Q : Text → Text → Prop} {ps qs : List Piece} (hp : All Q ps)
    (hq : All Q qs) : All Q (ps ++ qs) := fun o n hmem =>
  (List.mem_append.1 hmem).elim (hp o n) (hq o n)

theorem All.left {Q : Text → Text → Prop} {ps qs : List Piece} (h : All Q (ps ++ qs)) : All Q ps :=
  fun o n hmem => h o n (List.mem_append_left qs hmem)

theorem All.right {Q : Text → Text → Prop} {ps qs : List Piece} (h : All Q (ps ++ qs)) : All Q qs :=
  fun o n hmem => h o n (List.mem_append_right ps hmem)

theorem All.kept {Q : Text → Text → Prop} {c : Char} {ps : List Piece} (h : All Q ps) :
    All Q (kept c :: ps) := fun o n hmem =>
  h o n ((List.mem_cons.1 hmem).resolve_left (by simp))

theorem All.map_kept {Q : Text → Text → Prop} (w : Text) : All Q (w.map Piece.kept) := by
  intro o n hmem
  obtain ⟨c, -, hc⟩ := List.mem_map.1 hmem
  cases hc

/-- The piece with its parts exchanged. -/
def flip : Piece → Piece
  | kept c => kept c
  | swapped o n => swapped n o

@[simp] theorem oldText_map_flip (ps : List Piece) : oldText (ps.map flip) = newText ps := by
  induction ps with
  | nil => rfl
  | cons p ps ih => cases p <;> simp [flip, ih]

@[simp] theorem newText_map_flip (ps : List Piece) : newText (ps.map flip) = oldText ps := by
  induction ps with
  | nil => rfl
  | cons p ps ih => cases p <;> simp [flip, ih]

theorem All.flip {Q R : Text → Text → Prop} {ps : List Piece} (h : All Q ps)
    (hQ : ∀ o n, Q o n → R n o) : All R (ps.map Piece.flip) := by
  intro o n hmem
  obtain ⟨p, hp, heq⟩ := List.mem_map.1 hmem
  cases p with
  | kept c => cases heq
  | swapped o' n' =>
      cases heq
      exact hQ _ _ (h _ _ hp)

theorem map_flip_map_flip (ps : List Piece) : (ps.map flip).map flip = ps := by
  induction ps with
  | nil => rfl
  | cons p ps ih => cases p <;> simp_all [flip]

/-! ### Characters that stay -/

/-- The first character stays if no part that gives way can begin with it. -/
theorem eq_kept_cons {ps : List Piece} {c : Char} {r : Text} (h : oldText ps = c :: r)
    (hno : ∀ o n, swapped o n ∈ ps → ¬ o <+: c :: r) :
    ∃ qs, ps = kept c :: qs ∧ oldText qs = r := by
  cases ps with
  | nil => cases h
  | cons p qs =>
      cases p with
      | kept d =>
          obtain ⟨rfl, rfl⟩ := List.cons.inj h
          exact ⟨qs, rfl, rfl⟩
      | swapped o n => exact absurd ⟨oldText qs, h⟩ (hno o n List.mem_cons_self)

/-- A word at the start stays if no part that gives way can begin inside it. -/
theorem eq_kept_append {ps : List Piece} {w r : Text} (h : oldText ps = w ++ r)
    (hno : ∀ o n, swapped o n ∈ ps → ∀ u v, w = u ++ v → v ≠ [] → ¬ o <+: v ++ r) :
    ∃ qs, ps = w.map kept ++ qs ∧ oldText qs = r := by
  induction w generalizing ps with
  | nil => exact ⟨ps, rfl, h⟩
  | cons c w ih =>
      obtain ⟨qs, rfl, hqs⟩ := eq_kept_cons h
        (fun o n hmem => hno o n hmem [] (c :: w) rfl (List.cons_ne_nil c w))
      obtain ⟨rs, rfl, hrs⟩ := ih hqs fun o n hmem u v huv =>
        hno o n (List.mem_cons_of_mem _ hmem) (c :: u) v (by rw [huv]; rfl)
      exact ⟨rs, rfl, hrs⟩

/-- A word at the start of the new text stays if no new part can begin inside it. -/
theorem eq_kept_append_of_new {ps : List Piece} {w r : Text} (h : newText ps = w ++ r)
    (hno : ∀ o n, swapped o n ∈ ps → ∀ u v, w = u ++ v → v ≠ [] → ¬ n <+: v ++ r) :
    ∃ qs, ps = w.map kept ++ qs ∧ newText qs = r := by
  obtain ⟨qs, hqs, hold⟩ := eq_kept_append ((oldText_map_flip ps).trans h)
    fun o n hmem => by
      obtain ⟨p, hp, heq⟩ := List.mem_map.1 hmem
      cases p with
      | kept c => cases heq
      | swapped o' n' =>
          cases heq
          exact hno _ _ hp
  refine ⟨qs.map flip, ?_, by rwa [newText_map_flip]⟩
  rw [← map_flip_map_flip ps, hqs, List.map_append, List.map_map]
  rfl

/-- A word at the start of the new text stays, or a new part begins inside it. -/
theorem eq_kept_or_swapped {ps : List Piece} {w r : Text} (h : newText ps = w ++ r) :
    (∃ qs, ps = w.map kept ++ qs ∧ newText qs = r) ∨
      ∃ u v o n qs, w = u ++ v ∧ v ≠ [] ∧ ps = u.map kept ++ swapped o n :: qs := by
  induction w generalizing ps with
  | nil => exact .inl ⟨ps, rfl, h⟩
  | cons c w ih =>
      cases ps with
      | nil => cases h
      | cons p ps =>
          cases p with
          | swapped o n => exact .inr ⟨[], c :: w, o, n, ps, rfl, List.cons_ne_nil c w, rfl⟩
          | kept d =>
              obtain ⟨rfl, htail⟩ := List.cons.inj h
              rcases ih htail with ⟨qs, rfl, hqs⟩ | ⟨u, v, o, n, qs, rfl, hv, rfl⟩
              · exact .inl ⟨qs, rfl, hqs⟩
              · exact .inr ⟨d :: u, v, o, n, qs, rfl, hv, rfl⟩

/-- Where the new text is cut, the pieces are cut as well, or a new part is cut in two. -/
theorem newText_eq_append {ps : List Piece} {u a : Text} (h : newText ps = u ++ a) :
    (∃ qs rs, ps = qs ++ rs ∧ newText qs = u ∧ newText rs = a) ∨
      ∃ qs o v w rs, ps = qs ++ swapped o (v ++ w) :: rs ∧ v ≠ [] ∧ u = newText qs ++ v := by
  induction ps generalizing u with
  | nil =>
      obtain ⟨rfl, rfl⟩ := List.append_eq_nil_iff.1 h.symm
      exact .inl ⟨[], [], rfl, rfl, rfl⟩
  | cons p ps ih =>
      have hbehind : ∀ u', newText ps = u' ++ a → u = p.new ++ u' →
          (∃ qs rs, p :: ps = qs ++ rs ∧ newText qs = u ∧ newText rs = a) ∨
            ∃ qs o v w rs, p :: ps = qs ++ swapped o (v ++ w) :: rs ∧ v ≠ [] ∧
              u = newText qs ++ v := by
        intro u' htail hu
        rcases ih htail with ⟨qs, rs, rfl, hqs, hrs⟩ | ⟨qs, o, v, w, rs, rfl, hv, rfl⟩
        · exact .inl ⟨p :: qs, rs, rfl, by rw [hu, ← hqs]; rfl, hrs⟩
        · exact .inr ⟨p :: qs, o, v, w, rs, rfl, hv, by rw [hu, ← List.append_assoc]; rfl⟩
      cases u with
      | nil => exact .inl ⟨[], p :: ps, rfl, rfl, h⟩
      | cons x u =>
          cases p with
          | kept c =>
              obtain ⟨rfl, htail⟩ := List.cons.inj h
              exact hbehind u htail rfl
          | swapped o n =>
              rcases List.append_eq_append_iff.1 (show n ++ newText ps = x :: u ++ a from h) with
                ⟨u', hu, htail⟩ | ⟨w, rfl, -⟩
              · exact hbehind u' htail hu
              · exact .inr ⟨[], o, x :: u, w, ps, rfl, List.cons_ne_nil x u, rfl⟩

end Piece

namespace Pattern

open Piece

/-- The pattern fits in the old text at a character that stays. The texts `b` and `r`
stand around the pieces, the first of them reversed. -/
def FitsAtKept (p : Pattern) (b : Text) : List Piece → Text → Prop
  | [], _ => False
  | .kept c :: ps, r => p.Fits b (c :: oldText ps ++ r) ∨ p.FitsAtKept (c :: b) ps r
  | .swapped o _ :: ps, r => p.FitsAtKept (o.reverse ++ b) ps r

theorem fitsAtKept_append {p : Pattern} {b r : Text} {ps qs : List Piece} :
    p.FitsAtKept b (ps ++ qs) r ↔
      p.FitsAtKept b ps (oldText qs ++ r) ∨ p.FitsAtKept ((oldText ps).reverse ++ b) qs r := by
  induction ps generalizing b with
  | nil => simp [FitsAtKept]
  | cons q ps ih =>
      cases q with
      | kept c => simp [FitsAtKept, ih, or_assoc]
      | swapped o n => simp [FitsAtKept, ih]

theorem occurs_append {p : Pattern} {b w a : Text}
    (h : ∀ u v, w = u ++ v → v ≠ [] → ¬ p.Fits (u.reverse ++ b) (v ++ a)) :
    p.Occurs b (w ++ a) ↔ p.Occurs (w.reverse ++ b) a := by
  induction w generalizing b with
  | nil => rfl
  | cons c w ih =>
      have hc : ¬ p.Fits b (c :: (w ++ a)) := h [] (c :: w) rfl (List.cons_ne_nil c w)
      rw [List.cons_append, occurs_cons_iff, or_iff_right hc, ih]
      · simp
      · intro u v huv hv
        have := h (c :: u) v (by rw [huv]; rfl) hv
        simpa using this

/-- What a pattern has to do with the pieces of a text for its matches in the new text
to be those in the old text at characters that stay. `Agree` relates what stands before
a place in the old text to what stands before it in the new one. -/
structure Steady (p : Pattern) (Q Agree : Text → Text → Prop) : Prop where
  /-- The pattern takes something. -/
  solid : ∀ b, ¬ p.Fits b []
  /-- At a character that stays, the pattern fits in both texts or in none. -/
  fits_kept : ∀ b b' c ps, Agree b b' → All Q ps →
    (p.Fits b' (c :: newText ps) ↔ p.Fits b (c :: oldText ps))
  /-- The pattern does not fit inside a new part. -/
  not_fits_new : ∀ b' o n ps, Q o n → All Q ps → ∀ u v, n = u ++ v → v ≠ [] →
    ¬ p.Fits (u.reverse ++ b') (v ++ newText ps)
  /-- A character that stays keeps the agreement. -/
  agree_kept : ∀ b b' c, Agree b b' → Agree (c :: b) (c :: b')
  /-- So does a part that gives way. -/
  agree_swapped : ∀ b b' o n, Agree b b' → Q o n → Agree (o.reverse ++ b) (n.reverse ++ b')

theorem Steady.occurs_newText_iff {p : Pattern} {Q Agree : Text → Text → Prop}
    (h : Steady p Q Agree) {ps : List Piece} (hps : All Q ps) :
    ∀ {b b' : Text}, Agree b b' → (p.Occurs b' (newText ps) ↔ p.FitsAtKept b ps []) := by
  induction ps with
  | nil =>
      intro b b' _
      simpa [FitsAtKept, occurs_nil_iff] using h.solid b'
  | cons q ps ih =>
      intro b b' hb
      cases q with
      | kept c =>
          rw [newText_kept, occurs_cons_iff, ih hps.of_cons (h.agree_kept b b' c hb),
            h.fits_kept b b' c ps hb hps.of_cons]
          simp [FitsAtKept]
      | swapped o n =>
          rw [newText_swapped, occurs_append (h.not_fits_new b' o n ps hps.head hps.of_cons),
            ih hps.of_cons (h.agree_swapped b b' o n hb hps.head)]
          rfl

/-- Where a pattern does not fit inside a part that gives way, its matches in the old
text are at characters that stay. -/
theorem occurs_oldText_iff {p : Pattern} {Q : Text → Text → Prop} (hsolid : ∀ b, ¬ p.Fits b [])
    (hold : ∀ b o n ps, Q o n → All Q ps → ∀ u v, o = u ++ v → v ≠ [] →
      ¬ p.Fits (u.reverse ++ b) (v ++ oldText ps))
    {ps : List Piece} (hps : All Q ps) :
    ∀ {b : Text}, p.Occurs b (oldText ps) ↔ p.FitsAtKept b ps [] := by
  induction ps with
  | nil =>
      intro b
      simpa [FitsAtKept, occurs_nil_iff] using hsolid b
  | cons q ps ih =>
      intro b
      cases q with
      | kept c => simp [occurs_cons_iff, ih hps.of_cons, FitsAtKept]
      | swapped o n =>
          rw [oldText_swapped, occurs_append (hold b o n ps hps.head hps.of_cons), ih hps.of_cons]
          rfl

/-! ### The pieces of a substitution -/

/-- How a substitution cuts its matches into pieces. A match begins with a part that
gives way, and inside such a part the pattern does not fit again. -/
structure Cuts (p : Pattern) (replace : Match → Text) (Q : Text → Text → Prop) : Prop where
  /-- The pieces of a match. The pattern does not fit at the start of a later part that
  gives way. -/
  cut : ∀ b w r k, p.Takes b w r k → ∃ o n ps, w = o ++ oldText ps ∧
    replace (.taken b w r k) = n ++ newText ps ∧ o ≠ [] ∧ Q o n ∧
    All (fun o n => Q o n ∧ ∀ b t, ¬ p.Fits b (o ++ t)) ps
  /-- The pattern does not fit inside a part that gives way. -/
  not_fits_inside : ∀ b o n u v t, Q o n → o = u ++ v → u ≠ [] → v ≠ [] →
    ¬ p.Fits (u.reverse ++ b) (v ++ t)

/-- A pattern that fits nowhere in the parts that give way fits at characters that stay
or not at all. -/
theorem fitsAtKept_iff {p : Pattern} {r : Text} {ps : List Piece}
    (hps : All (fun o _ => ∀ b u v t, o = u ++ v → v ≠ [] → ¬ p.Fits (u.reverse ++ b) (v ++ t)) ps)
    {b : Text} : p.FitsAtKept b ps r ↔
      ∃ u v, oldText ps = u ++ v ∧ v ≠ [] ∧ p.Fits (u.reverse ++ b) (v ++ r) := by
  induction ps generalizing b with
  | nil => simp [FitsAtKept]
  | cons q ps ih =>
      cases q with
      | kept c =>
          simp only [FitsAtKept, ih hps.of_cons, oldText_kept]
          constructor
          · rintro (h | ⟨u, v, huv, hv, h⟩)
            · exact ⟨[], c :: oldText ps, rfl, List.cons_ne_nil _ _, h⟩
            · exact ⟨c :: u, v, by rw [huv]; rfl, hv, by simpa using h⟩
          · rintro ⟨u, v, huv, hv, h⟩
            cases u with
            | nil =>
                obtain rfl : c :: oldText ps = v := huv
                exact .inl h
            | cons d u =>
                obtain ⟨rfl, huv'⟩ := List.cons.inj huv
                exact .inr ⟨u, v, huv', hv, by simpa using h⟩
      | swapped o n =>
          simp only [FitsAtKept, ih hps.of_cons, oldText_swapped]
          constructor
          · rintro ⟨u, v, huv, hv, h⟩
            exact ⟨o ++ u, v, by rw [huv, List.append_assoc], hv, by simpa using h⟩
          · rintro ⟨u, v, huv, hv, h⟩
            rcases List.append_eq_append_iff.1 huv with ⟨u', rfl, huv'⟩ | ⟨v', rfl, rfl⟩
            · exact ⟨u', v, huv', hv, by simpa using h⟩
            · cases v' with
              | nil => exact ⟨[], oldText ps, rfl, hv, by simpa using h⟩
              | cons c v' =>
                  rw [List.append_assoc] at h
                  exact absurd h (hps.head b u (c :: v') _ rfl (List.cons_ne_nil c v'))

theorem hides_iff {p : Pattern} {b o w r : Text} {k : Captures} (ho : o ≠ [])
    (hinside : ∀ u v t, o = u ++ v → u ≠ [] → v ≠ [] → ¬ p.Fits (u.reverse ++ b) (v ++ t)) :
    p.Hides (.taken b (o ++ w) r k) ↔
      ∃ u v, w = u ++ v ∧ v ≠ [] ∧ p.Fits (u.reverse ++ (o.reverse ++ b)) (v ++ r) := by
  simp only [Hides, Match.text_taken, Match.start_taken, Match.stop_taken, Cursor.before_between,
    Cursor.after_between]
  constructor
  · rintro ⟨u, v, huv, hu, hv, h⟩
    rcases List.append_eq_append_iff.1 huv with ⟨u', rfl, rfl⟩ | ⟨v', rfl, rfl⟩
    · exact ⟨u', v, rfl, hv, by simpa using h⟩
    · cases v' with
      | nil => exact ⟨[], w, rfl, hv, by simpa using h⟩
      | cons c v' =>
          rw [List.append_assoc] at h
          exact absurd h (hinside u (c :: v') _ rfl hu (List.cons_ne_nil c v'))
  · rintro ⟨u, v, rfl, hv, h⟩
    exact ⟨o ++ u, v, by rw [List.append_assoc], by simp [ho], hv, by simpa using h⟩

/-- The pieces of a text under a substitution: they spell the text and its result, and
the pattern fits at a character that stays just if a match hides another. -/
theorem Cuts.exists_pieces {p : Pattern} {replace : Match → Text} {Q : Text → Text → Prop}
    (h : Cuts p replace Q) {b a : Text} {ms : List Match} (hscan : Scans p b a ms) :
    ∃ ps, oldText ps = a ∧ newText ps = spliceFrom replace (.between b a) ms ∧ All Q ps ∧
      (p.FitsAtKept b ps [] ↔ ∃ m ∈ ms, p.Hides m) := by
  induction hscan with
  | done => exact ⟨[], rfl, rfl, All.map_kept [], by simp [FitsAtKept]⟩
  | @skip b a x ms hfits hs ih =>
      obtain ⟨ps, hold, hnew, hall, hkept⟩ := ih
      refine ⟨.kept x :: ps, by rw [oldText_kept, hold], ?_, hall.kept, ?_⟩
      · rw [newText_kept, hnew, spliceFrom_skip fun m hm => hs.le_start m hm]
      · simp only [FitsAtKept, hold, List.append_nil, hfits, false_or, hkept]
  | @found b w a k ms hm ht hw hs ih =>
      obtain ⟨ps, hold, hnew, hall, hkept⟩ := ih
      obtain ⟨o, n, qs, hw', hreplace, ho, hQ, hqs⟩ := h.cut b w a k ht
      have hinside := fun u v t => h.not_fits_inside b o n u v t hQ
      have hqsfits : All (fun o _ => ∀ b u v t, o = u ++ v → v ≠ [] →
          ¬ p.Fits (u.reverse ++ b) (v ++ t)) qs := by
        intro o' n' hmem b' u v t huv hv
        obtain ⟨hQ', hstart⟩ := hqs o' n' hmem
        cases u with
        | nil =>
            obtain rfl : o' = v := huv
            exact hstart b' t
        | cons c u => exact h.not_fits_inside b' o' n' _ v t hQ' huv (List.cons_ne_nil c u) hv
      refine ⟨(.swapped o n :: qs) ++ ps, ?_, ?_, ?_, ?_⟩
      · rw [oldText_append, oldText_swapped, ← hw', hold]
      · rw [newText_append, newText_swapped, ← hreplace, hnew, spliceFrom_found]
      · refine All.append (fun o' n' hmem => ?_) hall
        rcases List.mem_cons.1 hmem with hmem | hmem
        · cases hmem
          exact hQ
        · exact (hqs o' n' hmem).1
      · rw [fitsAtKept_append, oldText_swapped, ← hw', hkept, hold, List.append_nil]
        simp only [FitsAtKept, List.mem_cons, exists_eq_or_imp, hw']
        rw [fitsAtKept_iff hqsfits, ← hides_iff ho hinside]

end Pattern

end CodeMigration
