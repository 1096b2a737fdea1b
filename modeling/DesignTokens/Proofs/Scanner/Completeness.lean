import DesignTokens.Proofs.Document.LineEnds
import DesignTokens.Proofs.Style.Reference
import DesignTokens.Scanner

/-!
# A scan finds every reference

A scan goes through a line from left to right and looks again inside each fallback that it meets.
`everyHit` tries every position instead.  Both find the same hits in the same order
(`hitsAt_eq_everyHit`): before its fallback a reference has no place where another one could
begin, and one that begins inside the fallback ends there.  With what blanking and line ends do
to the columns, this says what a scan of a document reports.
-/

namespace DesignTokens

open Style

variable {line : Int} {column : Nat} {t u f rest : Text} {r : Reference} {h : Hit}

/-! ### Every position -/

/-- The hit of the reference that begins a text, if one does. -/
def hitHere (line : Int) (column : Nat) (t : Text) : List Hit :=
  ((reference? isAsciiNameChar t).map fun (r, _) => Hit.ofReference line column r).toList

/-- The hits of all references that begin in a text, found by trying every position. -/
def everyHit (line : Int) (column : Nat) : Text → List Hit
  | [] => []
  | c :: cs => hitHere line column (c :: cs) ++ everyHit line (column + 1) cs

/-- Where no reference is read there is no hit. -/
lemma hitHere_eq_nil (h : reference? isAsciiNameChar t = none) : hitHere line column t = [] := by
  rw [hitHere, h]
  rfl

/-- A text that does not begin as a reference does is not read as one. -/
lemma reference?_eq_none_of_opening {isName : Char → Bool}
    (h : ∀ u, t ≠ Reference.opening ++ u) : reference? isName t = none := by
  rw [← Option.not_isSome_iff_eq_none, Option.isSome_iff_exists]
  rintro ⟨⟨r, rest⟩, hr⟩
  exact h _ ((reference?_append hr).trans (Reference.text_append r rest))

/-- No reference begins with any other letter than its first. -/
lemma reference?_cons_eq_none {c : Char} (hc : c ≠ 'v') (t : Text) :
    reference? isAsciiNameChar (c :: t) = none := by
  refine reference?_eq_none_of_opening fun u heq => ?_
  rw [Reference.opening_eq] at heq
  exact hc (List.cons.inj heq).1

/-- A text is inert when no reference begins in it, whatever follows. -/
def Inert (u : Text) : Prop :=
  ∀ line column x, everyHit line column (u ++ x) = everyHit line (column + u.length) x

/-- The empty text is inert. -/
lemma inert_nil : Inert [] := by
  intro line column x
  rfl

/-- One more character at which no reference begins keeps a text inert. -/
lemma Inert.cons {c : Char} (hu : Inert u)
    (hc : ∀ x, reference? isAsciiNameChar (c :: (u ++ x)) = none) : Inert (c :: u) := by
  intro line column x
  rw [List.cons_append, everyHit, hitHere_eq_nil (hc x), List.nil_append, hu, List.length_cons,
    Nat.add_right_comm, Nat.add_assoc]

/-- Where the opening of a reference lacks its parenthesis there is none, and what stops the text
does not go on with an opening. -/
lemma inert_concat {w : Text} {stop : Char} (hw : '(' ∉ w) (hstop : stop ∉ Reference.opening) :
    Inert (w ++ [stop]) := by
  have hne : stop ≠ 'v' ∧ stop ≠ 'a' ∧ stop ≠ 'r' ∧ stop ≠ '(' := by
    simpa [Reference.opening_eq] using hstop
  induction w with
  | nil => exact inert_nil.cons fun x => reference?_cons_eq_none hne.1 x
  | cons c w ih =>
    rw [List.mem_cons, not_or] at hw
    refine (ih hw.2).cons fun x => reference?_eq_none_of_opening fun u heq => ?_
    -- The stop, or a character of `w`, would be one of the three that follow the first.
    rw [Reference.opening_eq, List.append_assoc] at heq
    have hrest : w ++ stop :: x = 'a' :: 'r' :: '(' :: u := (List.cons.inj heq).2
    match w, hw.2, hrest with
    | [], _, heq => exact hne.2.1 (List.cons.inj heq).1
    | [_], _, heq => exact hne.2.2.1 (List.cons.inj (List.cons.inj heq).2).1
    | [_, _], _, heq => exact hne.2.2.2 (List.cons.inj (List.cons.inj (List.cons.inj heq).2).2).1
    | a :: b :: d :: w, hmem, heq =>
      have hd : d = '(' := (List.cons.inj (List.cons.inj (List.cons.inj heq).2).2).1
      rw [hd] at hmem
      exact hmem (by simp)

/-- Behind its first character, a reference has no other one before its fallback or its end. -/
lemma inert_before_fallback (hr : r.IsWellFormed isAsciiNameChar) (stop : Char)
    (hstop : stop ∉ Reference.opening) :
    Inert ('a' :: 'r' :: '(' :: (r.lead ++ r.name ++ r.gap ++ [stop])) := by
  obtain ⟨ns, -, hns, hname⟩ := hr.name_eq
  have hlead : '(' ∉ r.lead := fun h => absurd (hr.lead_blank _ h) (by decide)
  have hgap : '(' ∉ r.gap := fun h => absurd (hr.gap_blank _ h) (by decide)
  have hmid : '(' ∉ r.name := by
    rw [hname]
    simpa using fun h => absurd (hns _ h) (by decide)
  have hbefore : '(' ∉ r.lead ++ r.name ++ r.gap := by
    simp only [List.mem_append, not_or]
    exact ⟨⟨hlead, hmid⟩, hgap⟩
  have hrest := inert_concat hbefore hstop
  exact ((hrest.cons fun _ => reference?_cons_eq_none (by decide) _).cons
    fun _ => reference?_cons_eq_none (by decide) _).cons
      fun _ => reference?_cons_eq_none (by decide) _

/-- The references that begin in a text are not changed by what follows, if that holds at every
position. -/
lemma everyHit_append (h : ∀ p v, t = p ++ v → v ≠ [] →
      (reference? isAsciiNameChar (v ++ u)).map Prod.fst
        = (reference? isAsciiNameChar v).map Prod.fst) :
    everyHit line column (t ++ u)
      = everyHit line column t ++ everyHit line (column + t.length) u := by
  induction t generalizing column with
  | nil => rfl
  | cons c t ih =>
    have hhere : hitHere line column (c :: t ++ u) = hitHere line column (c :: t) := by
      have hfst := congrArg (Option.map (Hit.ofReference line column))
        (h [] (c :: t) rfl (List.cons_ne_nil c t))
      rw [Option.map_map, Option.map_map] at hfst
      exact congrArg Option.toList hfst
    have hrest : everyHit line (column + 1) (t ++ u)
        = everyHit line (column + 1) t ++ everyHit line (column + 1 + t.length) u := by
      refine ih fun p v hp hv => h (c :: p) v ?_ hv
      rw [hp, List.cons_append]
    rw [List.cons_append] at hhere
    rw [List.cons_append, everyHit, everyHit, hhere, hrest, List.append_assoc, List.length_cons,
      Nat.add_right_comm, Nat.add_assoc]

/-- References inside a balanced text end inside it, if a parenthesis follows. -/
lemma everyHit_append_close (hf : Balanced f) (rest : Text) :
    everyHit line column (f ++ ')' :: rest)
      = everyHit line column f ++ everyHit line (column + f.length + 1) rest := by
  have hclose := reference?_cons_eq_none (c := ')') (by decide) rest
  rw [everyHit_append, everyHit, hitHere_eq_nil hclose, List.nil_append]
  rintro p v rfl -
  exact map_fst_reference?_append_close isNameClass_ascii hf rest

/-! ### The scan of a line -/

/-- The scan of a reference reports it, looks into its fallback and goes on behind it. -/
lemma hitsAt_of_reference (h : reference? isAsciiNameChar t = some (r, rest)) :
    hitsAt line column t = Hit.ofReference line column r
      :: (hitsAt line (Hit.fallbackColumn column r) (r.fallback.getD [])
        ++ hitsAt line (column + r.text.length) rest) := by
  rw [hitsAt]
  split
  · next r' rest' h' =>
    rw [h] at h'
    cases h'
    rfl
  · next h' =>
    rw [h] at h'
    cases h'

/-- Behind a fallback there is one character before the reference ends. -/
lemma Hit.fallbackColumn_add (column : Nat) (hf : r.fallback = some f) :
    Hit.fallbackColumn column r + f.length + 1 = column + r.text.length := by
  simp only [Hit.fallbackColumn, Reference.text, hf, Option.elim, List.length_append,
    List.length_cons, List.length_nil]
  omega

/-- At a reference, every position is one inside its fallback or one behind it. -/
lemma everyHit_of_reference (h : reference? isAsciiNameChar t = some (r, rest)) :
    everyHit line column t = Hit.ofReference line column r
      :: (everyHit line (Hit.fallbackColumn column r) (r.fallback.getD [])
        ++ everyHit line (column + r.text.length) rest) := by
  obtain ⟨hr, ht⟩ := (reference?_eq_some_iff isNameClass_ascii).mp h
  have hhere : hitHere line column t = [Hit.ofReference line column r] := by
    rw [hitHere, h]
    rfl
  -- No reference begins inside the opening, the name or the white space around it.
  cases hf : r.fallback with
  | none =>
    have hsplit : t
        = 'v' :: ('a' :: 'r' :: '(' :: (r.lead ++ r.name ++ r.gap ++ [')']) ++ rest) := by
      simp [ht, Reference.text, Reference.opening_eq, hf]
    have hcolumn : column + 1 + ('a' :: 'r' :: '(' :: (r.lead ++ r.name ++ r.gap ++ [')'])).length
        = column + r.text.length := by
      simp only [Reference.text, Reference.opening_eq, hf, Option.elim, List.length_append,
        List.length_cons, List.length_nil]
      omega
    have hinert := inert_before_fallback hr ')' (by decide)
    rw [hsplit, everyHit, ← hsplit, hhere, hinert, hcolumn]
    rfl
  | some f =>
    have hsplit : t = 'v' :: ('a' :: 'r' :: '(' :: (r.lead ++ r.name ++ r.gap ++ [','])
        ++ (f ++ ')' :: rest)) := by
      simp [ht, Reference.text, Reference.opening_eq, hf]
    have hcolumn : column + 1 + ('a' :: 'r' :: '(' :: (r.lead ++ r.name ++ r.gap ++ [','])).length
        = Hit.fallbackColumn column r := by
      simp only [Hit.fallbackColumn, Reference.opening_eq, List.length_append, List.length_cons,
        List.length_nil]
      omega
    have hinert := inert_before_fallback hr ',' (by decide)
    have hbalanced := (hr.fallback_grammar f hf).balanced
    rw [hsplit, everyHit, ← hsplit, hhere, hinert, everyHit_append_close hbalanced, hcolumn,
      Hit.fallbackColumn_add column hf]
    rfl

/-- Going through a text and looking again inside fallbacks finds what trying every position
does. -/
lemma hitsAt_eq_everyHit : hitsAt line column t = everyHit line column t := by
  induction column, t using hitsAt.induct with
  | case1 column t r rest h _ _ ihFallback ihRest =>
    rw [hitsAt_of_reference h, everyHit_of_reference h, ihFallback, ihRest]
  | case2 column h =>
    rw [hitsAt]
    split
    · next h' =>
      rw [h] at h'
      cases h'
    · rfl
  | case3 column c cs h ih =>
    rw [hitsAt, everyHit, hitHere_eq_nil h, List.nil_append, ← ih]
    split
    · next h' =>
      rw [h] at h'
      cases h'
    · rfl

/-! ### What the hits are -/

/-- Trying every position finds the well formed references with the places where they stand. -/
lemma mem_everyHit :
    h ∈ everyHit line column t
      ↔ ∃ before r after, r.IsWellFormed isAsciiNameChar ∧ t = before ++ r.text ++ after ∧
          h = Hit.ofReference line (column + before.length) r := by
  induction t generalizing column with
  | nil =>
    constructor
    · intro hmem
      cases hmem
    · rintro ⟨before, r, after, -, heq, -⟩
      simp [Reference.text] at heq
  | cons c t ih =>
    have hhere : h ∈ hitHere line column (c :: t)
        ↔ ∃ r after, r.IsWellFormed isAsciiNameChar ∧ c :: t = r.text ++ after ∧
            h = Hit.ofReference line column r := by
      rw [hitHere, Option.mem_toList, Option.map_eq_some_iff]
      simp only [Prod.exists, reference?_eq_some_iff isNameClass_ascii, and_assoc, eq_comm]
    rw [everyHit, List.mem_append, hhere, ih]
    constructor
    · rintro (⟨r, after, hr, heq, rfl⟩ | ⟨before, r, after, hr, rfl, rfl⟩)
      · exact ⟨[], r, after, hr, heq, rfl⟩
      · refine ⟨c :: before, r, after, hr, rfl, ?_⟩
        rw [List.length_cons, Nat.add_right_comm, Nat.add_assoc]
    · rintro ⟨before, r, after, hr, heq, rfl⟩
      cases before with
      | nil => exact Or.inl ⟨r, after, hr, heq, rfl⟩
      | cons b before =>
        obtain ⟨-, rfl⟩ := List.cons.inj heq
        refine Or.inr ⟨before, r, after, hr, rfl, ?_⟩
        rw [List.length_cons, Nat.add_right_comm, Nat.add_assoc]

/-- A hit in a line has the number of the line. -/
lemma line_of_mem_everyHit (hmem : h ∈ everyHit line column t) : h.line = line := by
  obtain ⟨before, r, after, -, -, rfl⟩ := mem_everyHit.mp hmem
  rfl

/-- Hits are found in the order of their places, one at each. -/
lemma pairwise_everyHit : (everyHit line column t).Pairwise fun h k => h.start < k.start := by
  induction t generalizing column with
  | nil => exact .nil
  | cons c t ih =>
    rw [everyHit, List.pairwise_append]
    refine ⟨?_, ih, ?_⟩
    · rw [hitHere]
      cases reference? isAsciiNameChar (c :: t) with
      | none => exact .nil
      | some p => exact List.pairwise_singleton ..
    · intro h hhere k hk
      obtain ⟨before, r, after, -, -, rfl⟩ := mem_everyHit.mp hk
      rw [hitHere, Option.mem_toList, Option.map_eq_some_iff] at hhere
      obtain ⟨p, -, rfl⟩ := hhere
      exact Nat.lt_of_lt_of_le (Nat.lt_succ_self column) (Nat.le_add_right _ _)

/-- Padding behind a line has no part in a reference. -/
lemma everyHit_of_trimmedLine {a b : Text} (hab : Document.TrimmedLine a b) :
    everyHit line column a = everyHit line column b := by
  obtain ⟨p, hp, rfl⟩ := hab
  have hclose : ')' ∉ p := by
    intro hmem
    rcases hp _ hmem with h | h <;> revert h <;> decide
  have hpad : everyHit line (column + b.length) p = [] := by
    rw [List.eq_nil_iff_forall_not_mem]
    intro h hmem
    obtain ⟨before, r, after, -, rfl, -⟩ := mem_everyHit.mp hmem
    exact hclose (by simp [Reference.text])
  rw [everyHit_append, hpad, List.append_nil]
  rintro q v - -
  exact map_fst_reference?_append_of_not_mem isNameClass_ascii hclose

/-! ### Lines -/

/-- The hits of numbered lines, found by trying every position. -/
def everyHitOfLines (line : Int) : List Text → List Hit
  | [] => []
  | t :: ts => everyHit line 0 t ++ everyHitOfLines (line + 1) ts

/-- Lines whose comments are blanked are scanned position by position; padding does not count. -/
lemma linesHits_eq {us ts : List Text} (hblanked : ∀ t ∈ ts, blankComments t = t)
    (htrimmed : List.Forall₂ Document.TrimmedLine us ts) (line : Int) :
    linesHits line ts = everyHitOfLines line us := by
  induction htrimmed generalizing line with
  | nil => rfl
  | @cons u t us ts hfirst _ ih =>
    rw [List.forall_mem_cons] at hblanked
    rw [linesHits, everyHitOfLines, lineHits, hblanked.1, hitsAt_eq_everyHit, ih hblanked.2,
      everyHit_of_trimmedLine hfirst]

/-- The hits of the lines are the hits of each line, with the number of the line. -/
lemma mem_everyHitOfLines {ts : List Text} :
    h ∈ everyHitOfLines line ts
      ↔ ∃ (i : Nat) (t : Text), ts[i]? = some t ∧ h ∈ everyHit (line + i) 0 t := by
  induction ts generalizing line with
  | nil => simp [everyHitOfLines]
  | cons t ts ih =>
    rw [everyHitOfLines, List.mem_append, ih]
    constructor
    · rintro (hmem | ⟨i, u, hu, hmem⟩)
      · exact ⟨0, t, rfl, by simpa using hmem⟩
      · refine ⟨i + 1, u, hu, ?_⟩
        rwa [Int.natCast_add, Int.add_comm (i : Int), ← Int.add_assoc]
    · rintro ⟨i, u, hu, hmem⟩
      cases i with
      | zero =>
        rw [List.getElem?_cons_zero, Option.some.injEq] at hu
        subst hu
        exact Or.inl (by simpa using hmem)
      | succ i =>
        refine Or.inr ⟨i, u, hu, ?_⟩
        rwa [Int.natCast_add, Int.add_comm (i : Int), ← Int.add_assoc] at hmem

/-- Hits on several lines are in the order of their lines, and on a line in that of their
columns. -/
lemma pairwise_everyHitOfLines {ts : List Text} :
    (everyHitOfLines line ts).Pairwise fun h k =>
      h.line < k.line ∨ h.line = k.line ∧ h.start < k.start := by
  induction ts generalizing line with
  | nil => exact .nil
  | cons t ts ih =>
    rw [everyHitOfLines, List.pairwise_append]
    refine ⟨?_, ih, ?_⟩
    · refine List.Pairwise.imp_of_mem ?_ pairwise_everyHit
      intro h k hh hk hlt
      exact Or.inr ⟨(line_of_mem_everyHit hh).trans (line_of_mem_everyHit hk).symm, hlt⟩
    · intro h hh k hk
      obtain ⟨i, u, -, hmem⟩ := mem_everyHitOfLines.mp hk
      rw [line_of_mem_everyHit hh, line_of_mem_everyHit hmem]
      omega

/-- The hits of a document are those of the blanked lines of its content. -/
lemma Document.hits_eq (d : Document) :
    d.hits = everyHitOfLines 0 ((blankComments d.text).splitOn '\n') := by
  have htrimmed := d.forall₂_blanked_lines
  have hlength : ((blankComments (['\n'].intercalate d.lines)).splitOn '\n').length
      = d.lineCount := by
    have hcontent := congrArg List.length (map_length_lines_blankComments d.text)
    rw [List.length_map, List.length_map] at hcontent
    rw [← htrimmed.length_eq, hcontent, lineCount, lines, List.length_map]
  have hpos : 0 < d.lineCount := by
    rw [lineCount, lines, List.length_map, List.length_pos_iff]
    exact List.splitOn_ne_nil '\n' d.text
  have hblanked : d.blankedLines d.lineCount
      = (blankComments (['\n'].intercalate d.lines)).splitOn '\n' := by
    rw [blankedLines, lineCount, List.take_length]
  have hcount : ((d.lineCount : Int) - 1 + 1).toNat = d.lineCount := by omega
  have hinside : ¬ ((d.lineCount : Int) - 1 < 0 || (d.lineCount : Int) ≤ 0) = true := by
    simp only [Bool.or_eq_true, decide_eq_true_eq]
    omega
  rw [hits, hitsBetween, if_neg hinside, hcount]
  dsimp only
  rw [hblanked, ← hlength, List.take_length]
  exact linesHits_eq (fun t ht => blankComments_line ht) htrimmed 0

/-- What stands behind a first part and before a third one is the second part. -/
lemma drop_take_append (a b c : Text) :
    ((a ++ b ++ c).take (a.length + b.length)).drop a.length = b := by
  rw [← List.length_append, List.take_left, List.drop_left]

/-- A scan reports the references of the text whose comments are blanked: exactly the well formed
ones that stand in a line, with their places, in the order of lines and columns and one at each
place.  The columns cut the reference and its name out of the blanked line. -/
theorem scan_reports_every_reference (d : Document) :
    let found := (Scanner.empty.scan d).1.hits
    let line? (i : Nat) : Option Text := ((blankComments d.text).splitOn '\n')[i]?
    (∀ h, h ∈ found ↔ ∃ (i : Nat) (t before : Text) (r : Reference) (after : Text),
        line? i = some t ∧ r.IsWellFormed isAsciiNameChar ∧ t = before ++ r.text ++ after ∧
          h = Hit.ofReference i before.length r) ∧
      found.Pairwise (fun h k => h.line < k.line ∨ h.line = k.line ∧ h.start < k.start) ∧
      ∀ h ∈ found, ∃ (i : Nat) (t : Text), h.line = i ∧ line? i = some t ∧
        (t.take h.stop).drop h.start = h.text ∧
          (t.take h.nameStop).drop h.nameStart = h.name := by
  intro found line?
  have hfound : found = everyHitOfLines 0 ((blankComments d.text).splitOn '\n') := d.hits_eq
  have hmem : ∀ h, h ∈ found ↔ ∃ (i : Nat) (t before : Text) (r : Reference) (after : Text),
      line? i = some t ∧ r.IsWellFormed isAsciiNameChar ∧ t = before ++ r.text ++ after ∧
        h = Hit.ofReference i before.length r := by
    intro h
    rw [hfound, mem_everyHitOfLines]
    simp only [mem_everyHit, Int.zero_add, Nat.zero_add]
    constructor
    · rintro ⟨i, t, ht, before, r, after, hr, heq, rfl⟩
      exact ⟨i, t, before, r, after, ht, hr, heq, rfl⟩
    · rintro ⟨i, t, before, r, after, ht, hr, heq, rfl⟩
      exact ⟨i, t, ht, before, r, after, hr, heq, rfl⟩
  refine ⟨hmem, hfound ▸ pairwise_everyHitOfLines, ?_⟩
  intro h hh
  obtain ⟨i, t, before, r, after, ht, -, rfl, rfl⟩ := (hmem h).mp hh
  refine ⟨i, _, rfl, ht, drop_take_append before r.text after, ?_⟩
  have hname := drop_take_append (before ++ Reference.opening ++ r.lead) r.name
    (r.gap ++ (r.tail ++ after))
  have hsplit : before ++ r.text ++ after
      = before ++ Reference.opening ++ r.lead ++ r.name ++ (r.gap ++ (r.tail ++ after)) := by
    rw [List.append_assoc before, Reference.text_append]
    simp only [List.append_assoc]
  rw [hsplit]
  rwa [List.length_append, List.length_append] at hname

end DesignTokens
