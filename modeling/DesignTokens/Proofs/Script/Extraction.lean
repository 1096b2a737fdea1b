import DesignTokens.Proofs.OrderedMap
import DesignTokens.Proofs.Script.Config

/-!
# Which configurations are read as they are written

The strings among the entries of a configuration are what should be read of it
(`Layout.strings`).  Two things stand in the way.  A nested object takes the whole block away
(`properties_of_object`), since what is inside a block must not have braces.  In a block without
braces, a property is found wherever a key, a colon and a quote stand side by side, be it in the
middle of a conditional, and it is not found if the identifier begins with a letter outside ASCII.

An entry is safe (`Entry.IsSafe`) if nothing of this can happen to it.  Then the reader stops behind
the entry with the string of the entry in its hand (`blockProperties_append_entry`), and reads the
whole block right.  Each entry that is not safe is read wrong in some configuration in which the
others are safe.
-/

namespace DesignTokens

namespace Script

open Text (Braceless)

variable {k t body rest x y z : Text} {c q : Char} {e : Entry}

/-! ### What may be misread -/

/-- Somewhere in the text a key, a colon and a quote stand side by side, and the quote may be closed
on its line by what follows. -/
def Misreadable (t : Text) : Prop :=
  ∃ x k b₁ b₂ q v, isKey k ∧ (∀ c ∈ b₁, isBlank c) ∧ (∀ c ∈ b₂, isBlank c) ∧ isQuote q ∧
    t = x ++ (k ++ (b₁ ++ ':' :: (b₂ ++ q :: v))) ∧ ∀ a b, v = a ++ '\n' :: b → q ∈ a

/-- The entry is read right whatever safe entries stand beside it. -/
def Entry.IsSafe (e : Entry) : Prop :=
  match e.value with
  | .string _ => isKey e.key
  | .number _ _ => True
  | .object _ _ => False
  | .conditional _ _ _ => ¬ Misreadable e.text

/-- A quote does not end an entry. -/
lemma isStop_of_isQuote (hq : isQuote q) : isStop q = false :=
  isStop_eq_false (by decide) hq

/-- A property that begins in an entry has its opening quote there. -/
lemma exists_of_property? {entry : Text × Text} (hz : Stops z)
    (h : property? (y ++ z) = some (entry, rest)) : ∃ b₁ b₂ q v, isKey entry.1 ∧
      (∀ c ∈ b₁, isBlank c) ∧ (∀ c ∈ b₂, isBlank c) ∧ isQuote q ∧
        y = entry.1 ++ (b₁ ++ ':' :: (b₂ ++ q :: v)) ∧
          v ++ z = entry.2 ++ q :: rest ∧ '\n' ∉ entry.2 := by
  obtain ⟨k, body⟩ := entry
  obtain ⟨hk, b₁, b₂, q, hb₁, hb₂, hq, -, hline, heq⟩ := property?_eq_some_iff.mp h
  have hfront : ∀ d ∈ k ++ (b₁ ++ ':' :: b₂), isStop d = false := by
    refine List.forall_mem_append.mpr ⟨fun d hd => ?_, List.forall_mem_append.mpr ⟨?_, ?_⟩⟩
    · exact isStop_eq_false (by decide) (isKeyChar_of_mem hk hd)
    · exact fun d hd => isStop_of_blank (hb₁ d hd)
    · exact List.forall_mem_cons.mpr ⟨rfl, fun d hd => isStop_of_blank (hb₂ d hd)⟩
  obtain ⟨v, rfl, hv⟩ := exists_of_stops (c := q) (y := body ++ q :: rest) hfront
    (isBlank_of_isQuote hq) (isStop_of_isQuote hq) hz (by rw [heq]; simp)
  exact ⟨b₁, b₂, q, v, hk, hb₁, hb₂, hq, by simp, hv.symm, hline⟩

/-- Where a property is read at the end of an entry, the entry may be misread. -/
lemma misreadable_of_property? {entry : Text × Text} (hz : Stops z)
    (h : property? (y ++ z) = some (entry, rest)) (x : Text) : Misreadable (x ++ y) := by
  obtain ⟨b₁, b₂, q, v, hk, hb₁, hb₂, hq, rfl, hv, hline⟩ := exists_of_property? hz h
  refine ⟨x, entry.1, b₁, b₂, q, v, hk, hb₁, hb₂, hq, rfl, ?_⟩
  rintro a b rfl
  rw [List.append_assoc, List.cons_append] at hv
  rcases Text.append_eq_append_cons hv.symm with ⟨m, rfl, hm⟩ | ⟨m, hm, -⟩
  · cases m with
    | nil =>
      obtain ⟨rfl, -⟩ := List.cons.inj hm
      exact absurd hq (by decide)
    | cons d m =>
      obtain ⟨rfl, -⟩ := List.cons.inj hm
      simp
  · exact absurd (hm ▸ List.mem_append_right a List.mem_cons_self) hline

/-- A quote is closed on its line, if the line goes on with such a quote. -/
lemma exists_quotedBody {v : Text} (hv : ∀ a b, v = a ++ '\n' :: b → q ∈ a) (hz : '\n' ∉ z)
    (rest : Text) : ∃ body rest', v ++ (z ++ q :: rest) = body ++ q :: rest' ∧ q ∉ body ∧
      '\n' ∉ body := by
  by_cases hline : '\n' ∈ v
  · obtain ⟨a, b, rfl, ha⟩ := List.eq_append_cons_of_mem hline
    obtain ⟨body, a', rfl, hbody⟩ := List.eq_append_cons_of_mem (hv a b rfl)
    exact ⟨body, a' ++ '\n' :: (b ++ (z ++ q :: rest)), by simp, hbody,
      fun h => ha (List.mem_append_left _ h)⟩
  · have hmem : q ∈ v ++ (z ++ [q]) := by simp
    obtain ⟨body, w, hsplit, hbody⟩ := List.eq_append_cons_of_mem hmem
    refine ⟨body, w ++ rest, ?_, hbody, fun h => ?_⟩
    · have hlonger := congrArg (· ++ rest) hsplit
      simpa using hlonger
    · have hall : '\n' ∈ v ++ (z ++ [q]) := hsplit ▸ List.mem_append_left _ h
      rw [List.mem_append, List.mem_append, List.mem_singleton] at hall
      rcases hall with hall | hall | rfl
      · exact hline hall
      · exact hz hall
      · exact hbody h

/-- What may be misread is misread, if its line goes on with the quote. -/
lemma exists_property? (h : Misreadable t) : ∃ x y q, t = x ++ y ∧ isQuote q ∧ ∀ z rest,
    '\n' ∉ z → ∃ entry rest', property? (y ++ (z ++ q :: rest)) = some (entry, rest') := by
  obtain ⟨x, k, b₁, b₂, q, v, hk, hb₁, hb₂, hq, rfl, hv⟩ := h
  refine ⟨x, _, q, rfl, hq, fun z rest hz => ?_⟩
  obtain ⟨body, rest', heq, hbody, hline⟩ := exists_quotedBody hv hz rest
  refine ⟨(k, body), rest',
    property?_eq_some_iff.mpr ⟨hk, b₁, b₂, q, hb₁, hb₂, hq, hbody, hline, ?_⟩⟩
  simp only [List.append_assoc, List.cons_append]
  rw [heq]

/-- Whether a text may be misread is seen if all quotes follow on its last line. -/
lemma misreadable_iff : Misreadable t ↔
    ∃ n ∈ List.range (t.length + 1), (property? (t.drop n ++ ",'\"\x60".toList)).isSome := by
  constructor
  · intro h
    obtain ⟨x, y, q, rfl, hq, hread⟩ := exists_property? h
    obtain ⟨z, rest, hz, hend⟩ : ∃ z rest, '\n' ∉ z ∧ ",'\"\x60".toList = z ++ q :: rest := by
      rw [isQuote, Bool.or_eq_true, Bool.or_eq_true, beq_iff_eq, beq_iff_eq, beq_iff_eq] at hq
      rcases hq with (rfl | rfl) | rfl
      · exact ⟨[','], ['"', '\x60'], by decide, rfl⟩
      · exact ⟨[',', '\x27'], ['\x60'], by decide, rfl⟩
      · exact ⟨[',', '\x27', '"'], [], by decide, rfl⟩
    have hlength : x.length < (x ++ y).length + 1 := by
      rw [List.length_append]
      omega
    refine ⟨x.length, List.mem_range.mpr hlength, ?_⟩
    obtain ⟨entry, rest', hsome⟩ := hread z rest hz
    rw [List.drop_left, hend, hsome]
    rfl
  · rintro ⟨n, -, hn⟩
    obtain ⟨⟨entry, rest⟩, hsome⟩ := Option.isSome_iff_exists.mp hn
    have hall := misreadable_of_property? (stops_cons rfl _) hsome (t.take n)
    rwa [List.take_append_drop] at hall

instance (t : Text) : Decidable (Misreadable t) :=
  decidable_of_iff' _ misreadable_iff

instance (e : Entry) : Decidable e.IsSafe :=
  match h : e.value with
  | .string _ => decidable_of_iff (isKey e.key) (by rw [Entry.IsSafe, h])
  | .number _ _ => .isTrue (by rw [Entry.IsSafe, h]; trivial)
  | .object _ _ => .isFalse (by rw [Entry.IsSafe, h]; exact id)
  | .conditional _ _ _ => decidable_of_iff (¬ Misreadable e.text) (by rw [Entry.IsSafe, h])

/-! ### Reading a block without braces -/

/-- White space is passed over. -/
lemma blockProperties_append_of_blank {b : Text} (hb : ∀ c ∈ b, isBlank c) (t : Text) :
    blockProperties (b ++ t) = blockProperties t := by
  refine blockProperties_append fun u v huv hv => ?_
  obtain ⟨c, v, rfl⟩ := List.exists_cons_of_ne_nil hv
  refine property?_of_not_isKeyStart ?_ _
  by_contra hstart
  have hkey := isKeyChar_of_isKeyStart (Bool.not_eq_false _ ▸ hstart)
  have hblank := hb c (by simp [huv])
  rw [not_isKeyChar_of_blank hblank] at hkey
  cases hkey

/-- What cannot be misread is passed over. -/
lemma blockProperties_append_of_not_misreadable (ht : ¬ Misreadable t) (hz : Stops z) :
    blockProperties (t ++ z) = blockProperties z := by
  refine blockProperties_append fun u v huv _ => ?_
  rw [Option.eq_none_iff_forall_not_mem]
  rintro ⟨entry, rest⟩ hsome
  exact ht (huv ▸ misreadable_of_property? hz hsome u)

/-- Characters of a class without quotes. -/
lemma quoteless_of_forall {p : Char → Bool} (hp : ∀ q ∈ ['\x27', '"', '\x60'], p q = false)
    (h : ∀ c ∈ t, p c) : ∀ c ∈ t, isQuote c = false :=
  fun c hc => eq_false_of_class (fun d hd => by simpa [isQuote, or_assoc] using hd) hp (h c hc)

/-- Without quotes nothing is misread. -/
lemma not_misreadable (h : ∀ c ∈ t, isQuote c = false) : ¬ Misreadable t := by
  rintro ⟨x, k, b₁, b₂, q, v, -, -, -, hq, rfl, -⟩
  rw [h q (by simp)] at hq
  cases hq

/-- A safe entry is read as it is written. -/
lemma blockProperties_append_entry (he : e.IsSafe) (hz : Stops z) :
    blockProperties (e.text ++ z) = e.string?.toList ++ blockProperties z := by
  cases hv : e.value with
  | string s =>
    rw [Entry.IsSafe, hv] at he
    have hread : property? (e.key ++ (e.gap.1 ++ ':' :: (e.gap'.1 ++ (s.text ++ (e.trail.1 ++ z)))))
        = some ((e.key, s.body), e.trail.1 ++ z) := by
      refine property?_eq_some_iff.mpr ⟨he, e.gap.1, e.gap'.1, s.quote, e.gap.2, e.gap'.2,
        s.isQuote_quote, s.quote_not_mem, s.lineFeed_not_mem, ?_⟩
      simp [Quoted.text]
    have htext : e.text ++ z = e.lead.1
        ++ (e.key ++ (e.gap.1 ++ ':' :: (e.gap'.1 ++ (s.text ++ (e.trail.1 ++ z))))) := by
      simp [Entry.text, hv, Value.text]
    rw [htext, blockProperties_append_of_blank e.lead.2, blockProperties_of_some hread,
      blockProperties_append_of_blank e.trail.2, Entry.string?, hv]
    rfl
  | number t isNumber_text =>
    rw [Entry.string?, hv]
    refine blockProperties_append_of_not_misreadable (not_misreadable ?_) hz
    refine quoteless_of_forall (p := fun c => isBlank c || isIdentifierChar c || isNumberChar c
      || c == ':') (by decide) fun c hc => ?_
    simp only [Entry.text, hv, Value.text, List.mem_append, List.mem_cons] at hc
    rcases hc with hc | hc | hc | rfl | hc | hc | hc
    · simp [e.lead.2 c hc]
    · simp [forall_isIdentifierChar e.isIdentifier_key c hc]
    · simp [e.gap.2 c hc]
    · rfl
    · simp [e.gap'.2 c hc]
    · simp [forall_isNumberChar isNumber_text c hc]
    · simp [e.trail.2 c hc]
  | object inside balanced =>
    rw [Entry.IsSafe, hv] at he
    exact he.elim
  | conditional test consequent alternative =>
    rw [Entry.IsSafe, hv] at he
    rw [Entry.string?, hv]
    exact blockProperties_append_of_not_misreadable he hz

/-- What stands behind the last entry is passed over. -/
lemma Layout.blockProperties_tail (l : Layout) : blockProperties l.tail = [] := by
  have hnone : ¬ Misreadable l.tail := not_misreadable <|
    quoteless_of_forall (p := fun c => isBlank c || c == ',') (by decide) fun c hc => by
      simpa using l.isTail c hc
  have hskip := blockProperties_append_of_not_misreadable (z := []) hnone nofun
  rwa [List.append_nil, blockProperties_nil] at hskip

/-- Safe entries are read as they are written. -/
lemma blockProperties_insideText {es : List Entry} {tail : Text} (hes : ∀ e ∈ es, e.IsSafe)
    (htail : Stops tail) :
    blockProperties (insideText es tail) = es.filterMap Entry.string? ++ blockProperties tail := by
  induction es with
  | nil => rw [insideText_nil, List.filterMap_nil, List.nil_append]
  | cons e es ih =>
    rw [List.forall_mem_cons] at hes
    have hmap : (e :: es).filterMap Entry.string?
        = e.string?.toList ++ es.filterMap Entry.string? := by
      rw [List.filterMap_cons]
      cases e.string? <;> rfl
    rw [hmap]
    cases es with
    | nil =>
      rw [insideText_singleton, blockProperties_append_entry hes.1 htail]
      simp
    | cons f es =>
      have hcomma : property? (',' :: insideText (f :: es) tail) = none :=
        property?_of_not_isKeyStart (by decide) _
      rw [insideText_cons_cons, blockProperties_append_entry hes.1 (stops_cons rfl _),
        blockProperties_of_none hcomma, ih hes.2, List.append_assoc]

/-! ### Reading a configuration -/

namespace Config

variable (c : Config)

/-- No block is found where none begins. -/
lemma wordBlock?_eq_none {previous : Option Char} (hxy : c.text = x ++ y) (hx : x ≠ c.before)
    (hlast : x.getLast? = previous) : wordBlock? previous y = none := by
  rw [Option.eq_none_iff_forall_not_mem]
  rintro ⟨inside, rest⟩ hsome
  obtain ⟨hword, hblock⟩ := wordBlock?_eq_some_iff.mp hsome
  exact hx (c.unique x y hxy ⟨hlast ▸ hword, opens_of_block? hblock⟩)

/-- A block without braces is the one that is found. -/
lemma blocks_of_braceless (h : Braceless c.inside) : blocks none c.text = [c.inside] := by
  have hblock : wordBlock? c.before.getLast? (blockText c.gap c.gap' c.inside c.after)
      = some (c.inside, c.after) :=
    wordBlock?_eq_some_iff.mpr ⟨c.wordStart,
      block?_eq_some_iff.mpr ⟨h, c.gap.1, c.gap'.1, c.gap.2, c.gap'.2, rfl⟩⟩
  have hafter : blocks (some '\x7d') c.after = [] := by
    refine blocks_eq_nil fun u v huv _ => ?_
    refine c.wordBlock?_eq_none (x := c.before ++ ("token".toList
      ++ (c.gap.1 ++ ':' :: (c.gap'.1 ++ '\x7b' :: c.inside))) ++ '\x7d' :: u) ?_ ?_ ?_
    · rw [Layout.text, blockText, huv]
      simp
    · intro heq
      have hlength := congrArg List.length heq
      simp at hlength
    · rw [Text.getLast?_append_cons]
  rw [Layout.text, blocks_append, Option.or_none, blocks_of_some hblock, hafter]
  intro u v huv hv
  refine c.wordBlock?_eq_none (x := u) ?_ ?_ Option.or_none.symm
  · rw [Layout.text, huv, List.append_assoc]
  · rintro rfl
    exact hv (by simpa using huv)

/-- A block with braces is not found. -/
lemma blocks_of_not_braceless (h : ¬ Braceless c.inside) : blocks none c.text = [] := by
  obtain ⟨m, rest, hinside, hm⟩ := c.balanced_inside.exists_open h
  refine blocks_eq_nil fun u v huv _ => ?_
  rw [Option.or_none]
  by_cases hu : u = c.before
  · obtain rfl : blockText c.gap c.gap' c.inside c.after = v := by
      rw [Layout.text, hu] at huv
      exact List.append_cancel_left huv
    rw [blockText, hinside, List.append_assoc, List.cons_append, wordBlock?,
      block?_of_nested c.gap.2 c.gap'.2 hm, ite_self]
  · exact c.wordBlock?_eq_none huv hu rfl

/-- A block without nested objects is read. -/
lemma properties_eq (h : ∀ e ∈ c.entries, ¬ e.value.IsObject) :
    properties c.text = OrderedMap.ofList (blockProperties c.inside) := by
  rw [properties, c.blocks_of_braceless (Layout.braceless_inside h), List.flatMap_singleton]

end Config

/-! ### Which configurations are read right -/

/-- An entry is safe if it has none of three faults. -/
lemma Entry.isSafe_iff : e.IsSafe ↔ ¬ e.value.IsObject ∧
    (∀ k body, e.string? = some (k, body) → isKey k) ∧
      (e.value.IsConditional → ¬ Misreadable e.text) := by
  cases hv : e.value <;>
    simp [Entry.IsSafe, Entry.string?, hv, Value.IsObject, Value.IsConditional]

/-- The value of a safe entry is no nested object. -/
lemma Entry.IsSafe.not_isObject (h : e.IsSafe) : ¬ e.value.IsObject :=
  (Entry.isSafe_iff.mp h).1

/-- Safe entries are read as they are written. -/
lemma Config.properties_eq_strings (c : Config) (h : ∀ e ∈ c.entries, e.IsSafe) :
    properties c.text = c.strings := by
  have hread := blockProperties_insideText h c.stops_tail
  rw [c.blockProperties_tail, List.append_nil] at hread
  rw [c.properties_eq fun e he => (h e he).not_isObject, Layout.inside, hread, Layout.strings]

/-- A nested object takes the whole block away. -/
lemma Config.properties_of_object (c : Config) (h : ∃ e ∈ c.entries, e.value.IsObject) :
    properties c.text = .empty := by
  obtain ⟨e, he, hobject⟩ := h
  have hopen : '\x7b' ∈ e.value.text := by
    cases hv : e.value with
    | object inside balanced => exact List.mem_cons_self
    | _ =>
      rw [hv] at hobject
      exact hobject.elim
  have hbrace : ¬ Braceless c.inside := by
    obtain ⟨x, y, hinside, -⟩ := exists_insideText he c.tail
    obtain ⟨f, t, htext, -, -⟩ := e.exists_text
    refine fun hnone => hnone.not_mem (c := '\x7b') rfl ?_
    rw [Layout.inside, hinside, htext]
    simp [hopen]
  rw [properties, c.blocks_of_not_braceless hbrace]
  rfl

/-- Only keys are read. -/
lemma isKey_of_mem_keys (h : k ∈ (properties t).keys) : isKey k := by
  obtain ⟨entry, hentry, rfl⟩ := List.mem_map.mp (OrderedMap.mem_keys_ofList.mp h)
  obtain ⟨inside, -, hmem⟩ := List.mem_flatMap.mp hentry
  exact isKey_of_mem_blockProperties hmem

/-- A letter makes an identifier however often it is repeated. -/
lemma isIdentifier_replicate (n : ℕ) : isIdentifier (List.replicate (n + 1) 'z') := by
  rw [List.replicate_succ, isIdentifier, ← List.replicate_succ, Bool.and_eq_true, List.all_eq_true]
  refine ⟨rfl, fun c hc => ?_⟩
  rw [List.eq_of_mem_replicate hc]
  rfl

/-- An entry whose value is the empty string. -/
def emptyString (n : ℕ) (hq : isQuote q) : Entry :=
  .plain (List.replicate (n + 1) 'z') (isIdentifier_replicate n)
    (.string ⟨q, [], hq, List.not_mem_nil, List.not_mem_nil, List.forall_mem_nil _⟩)

/-- An entry whose value is the empty string is safe. -/
lemma isSafe_emptyString (n : ℕ) (hq : isQuote q) : (emptyString n hq).IsSafe := by
  change isKey (List.replicate (n + 1) 'z')
  rw [List.replicate_succ, isKey, Bool.and_eq_true, List.all_eq_true]
  refine ⟨rfl, fun c hc => ?_⟩
  rw [List.eq_of_mem_replicate hc]
  rfl

/-- The text of an entry with the empty string is its key, a colon and two quotes. -/
lemma text_emptyString (n : ℕ) (hq : isQuote q) :
    (emptyString n hq).text = (List.replicate (n + 1) 'z' ++ [':']) ++ q :: [q] := by
  change [] ++ (List.replicate (n + 1) 'z' ++ ([] ++ ':' :: ([] ++ ((q :: ([] ++ [q])) ++ [])))) = _
  simp

/-- In an entry with the empty string no block begins. -/
lemma noBlock_emptyString (n : ℕ) (hq : isQuote q) : NoBlock (emptyString n hq).text := by
  refine noBlock_of_not_mem ?_
  have hne : q ≠ 't' := by
    rintro rfl
    exact absurd hq (by decide)
  rw [text_emptyString]
  simp [Ne.symm hne]

/-- The keys that should be read are those of the entries whose values are strings. -/
lemma mem_keys_strings {l : Layout} :
    k ∈ l.strings.keys ↔ ∃ e ∈ l.entries, ∃ body, e.string? = some (k, body) := by
  rw [Layout.strings, OrderedMap.mem_keys_ofList, List.mem_map]
  simp only [List.mem_filterMap, Prod.exists, exists_and_right, exists_eq_right]
  exact ⟨fun ⟨body, e, he, hs⟩ => ⟨e, he, body, hs⟩, fun ⟨e, he, body, hs⟩ => ⟨body, e, he, hs⟩⟩

/-- An identifier with which no property begins is not read. -/
lemma Config.properties_ne_of_key (c : Config) (he : e ∈ c.entries)
    (hstring : e.string? = some (k, body)) (hk : isKey k = false) :
    properties c.text ≠ c.strings := by
  intro heq
  have hmem : k ∈ c.strings.keys := mem_keys_strings.mpr ⟨e, he, body, hstring⟩
  rw [← heq] at hmem
  rw [isKey_of_mem_keys hmem] at hk
  cases hk

/-- A string beside a nested object is not read. -/
lemma Config.properties_ne_of_object (c : Config) (he : e ∈ c.entries) (hobject : e.value.IsObject)
    {f : Entry} (hf : f ∈ c.entries) (hstring : f.string? = some (k, body)) :
    properties c.text ≠ c.strings := by
  intro heq
  have hmem : k ∈ c.strings.keys := mem_keys_strings.mpr ⟨f, hf, body, hstring⟩
  rw [← heq, c.properties_of_object ⟨e, he, hobject⟩] at hmem
  cases hmem

/-- Something is read of what may be misread, if a string in the right quotes follows, and its key
is shorter than the key of the string. -/
lemma Config.properties_ne_of_misreadable (c : Config) (hq : isQuote q)
    (hc : c.inside = e.text ++ ',' :: (emptyString e.text.length hq).text)
    (hentries : c.entries = [e, emptyString e.text.length hq])
    (hobject : ¬ e.value.IsObject) (hstring : e.string? = none) (htext : e.text = x ++ y)
    (hread : ∀ z rest, '\n' ∉ z →
      ∃ entry rest', property? (y ++ (z ++ q :: rest)) = some (entry, rest')) :
    properties c.text ≠ c.strings := by
  intro heq
  set f := emptyString e.text.length hq with hf
  have hflat : ∀ g ∈ c.entries, ¬ g.value.IsObject := by
    rw [hentries]
    simp [hobject, hf, (isSafe_emptyString _ hq).not_isObject]
  set z := ',' :: (List.replicate (e.text.length + 1) 'z' ++ [':']) with hz
  have hinside : c.inside = x ++ (y ++ (z ++ q :: [q])) := by
    rw [hc, hf, text_emptyString, htext]
    simp [hz, htext]
  obtain ⟨entry, rest, hfound⟩ := hread z [q] (by simp [hz])
  obtain ⟨u, v, entry', rest', rfl, hfirst, hmem⟩ := exists_mem_blockProperties hfound x
  rw [← List.append_assoc] at hfirst
  obtain ⟨b₁, b₂, q', w, -, -, -, -, hvy, -, -⟩ :=
    exists_of_property? (z := z ++ q :: [q]) (stops_cons rfl _) hfirst
  have hkey : entry'.1 ∈ (properties c.text).keys := by
    rw [c.properties_eq hflat, hinside, OrderedMap.mem_keys_ofList]
    exact List.mem_map_of_mem hmem
  rw [heq, mem_keys_strings] at hkey
  obtain ⟨g, hg, body, hbody⟩ := hkey
  rw [hentries, List.mem_pair] at hg
  -- Neither entry has the key that is read: `e` has no string, and the key of `f` is longer.
  rcases hg with rfl | rfl
  · rw [hstring] at hbody
    cases hbody
  · have hlong : entry'.1.length = e.text.length + 1 := by
      rw [← (Prod.mk.inj (Option.some.inj hbody)).1]
      exact List.length_replicate
    have hlength := congrArg List.length htext
    have hshort := congrArg List.length hvy
    simp only [List.length_append, List.length_cons] at hlength hshort
    omega

/-- An entry that is not safe is read wrong beside a safe one. -/
lemma Config.exists_properties_ne (c : Config) (he : e ∈ c.entries) (hrisk : ¬ e.IsSafe) :
    ∃ c' : Config, e ∈ c'.entries ∧ (∀ f ∈ c'.entries, f = e ∨ f.IsSafe) ∧
      properties c'.text ≠ c'.strings := by
  have hblock := c.noBlock_entry he
  have halone : ∀ f ∈ [e], NoBlock f.text := List.forall_mem_singleton.mpr hblock
  have hpair : ∀ {q : Char} (n : ℕ) (hq : isQuote q), ∀ f ∈ [e, emptyString n hq], NoBlock f.text :=
    fun n hq => List.forall_mem_cons.mpr
      ⟨hblock, List.forall_mem_singleton.mpr (noBlock_emptyString n hq)⟩
  have hsafe : ∀ {q : Char} (n : ℕ) (hq : isQuote q), ∀ f ∈ [e, emptyString n hq],
      f = e ∨ f.IsSafe :=
    fun n hq => List.forall_mem_cons.mpr
      ⟨Or.inl rfl, List.forall_mem_singleton.mpr (Or.inr (isSafe_emptyString n hq))⟩
  -- A string is read wrong by itself, an object or a conditional in front of an empty string.
  cases hv : e.value with
  | string s =>
    rw [Entry.IsSafe, hv] at hrisk
    have hstring : e.string? = some (e.key, s.body) := by rw [Entry.string?, hv]
    exact ⟨.ofEntries _ halone, List.mem_singleton_self e,
      List.forall_mem_singleton.mpr (Or.inl rfl),
      Config.properties_ne_of_key _ (List.mem_singleton_self e) hstring
        (Bool.eq_false_iff.mpr hrisk)⟩
  | number t isNumber_text =>
    rw [Entry.IsSafe, hv] at hrisk
    exact absurd trivial hrisk
  | object inside balanced =>
    have hobject : e.value.IsObject := by
      rw [hv]
      trivial
    refine ⟨.ofEntries _ (hpair 0 (q := '\x27') rfl), List.mem_cons_self, hsafe 0 rfl, ?_⟩
    exact Config.properties_ne_of_object _ List.mem_cons_self hobject
      (List.mem_cons_of_mem _ (List.mem_singleton_self _)) rfl
  | conditional test consequent alternative =>
    rw [Entry.IsSafe, hv, not_not] at hrisk
    obtain ⟨x, y, q, htext, hq, hread⟩ := exists_property? hrisk
    refine ⟨.ofEntries _ (hpair e.text.length hq), List.mem_cons_self, hsafe _ hq, ?_⟩
    refine Config.properties_ne_of_misreadable _ hq ?_ rfl ?_ ?_ htext hread
    · change insideText [e, emptyString e.text.length hq] [] = _
      rw [insideText_cons_cons, insideText_singleton, List.append_nil]
    · rw [hv]
      exact id
    · rw [Entry.string?, hv]

/-- If no conditional may be misread, a configuration is read as it is written exactly if all
entries are safe, or there is no string to be read. -/
lemma Config.properties_eq_strings_iff (c : Config)
    (h : ∀ e ∈ c.entries, e.value.IsConditional → ¬ Misreadable e.text) :
    properties c.text = c.strings ↔
      (∀ e ∈ c.entries, e.IsSafe) ∨ ∀ e ∈ c.entries, e.string? = none := by
  by_cases hobject : ∃ e ∈ c.entries, e.value.IsObject
  · obtain ⟨f, hf, hf'⟩ := hobject
    have hrisk : ¬ ∀ e ∈ c.entries, e.IsSafe := fun hsafe => (hsafe f hf).not_isObject hf'
    rw [or_iff_right hrisk]
    constructor
    · intro heq e he
      rw [Option.eq_none_iff_forall_not_mem]
      rintro ⟨k, body⟩ hstring
      exact c.properties_ne_of_object hf hf' he hstring heq
    · intro hnone
      rw [c.properties_of_object ⟨f, hf, hf'⟩, Layout.strings, List.filterMap_eq_nil_iff.mpr hnone]
      rfl
  · have hsafe_iff : ∀ e ∈ c.entries,
        e.IsSafe ↔ ∀ k body, e.string? = some (k, body) → isKey k := by
      intro e he
      rw [Entry.isSafe_iff, and_iff_right fun hobj => hobject ⟨e, he, hobj⟩, and_iff_left (h e he)]
    constructor
    · intro heq
      refine Or.inl fun e he => (hsafe_iff e he).mpr fun k body hstring => ?_
      by_contra hk
      exact c.properties_ne_of_key he hstring (Bool.eq_false_iff.mpr hk) heq
    · rintro (hsafe | hnone)
      · exact c.properties_eq_strings hsafe
      · refine c.properties_eq_strings fun e he => (hsafe_iff e he).mpr fun k body hstring => ?_
        rw [hnone e he] at hstring
        cases hstring

/-- If no conditional may be misread, a configuration is read as it is written exactly if all
entries are safe, or there is no string to be read.  Beside a nested object nothing is read at all.
Each entry that is not safe, conditionals included, is read wrong in a configuration in which the
others are safe. -/
theorem properties_of_config (c : Config) :
    ((∀ e ∈ c.entries, e.value.IsConditional → ¬ Misreadable e.text) →
      (properties c.text = c.strings ↔
        (∀ e ∈ c.entries, e.IsSafe) ∨ ∀ e ∈ c.entries, e.string? = none)) ∧
    ((∃ e ∈ c.entries, e.value.IsObject) → properties c.text = .empty) ∧
    ∀ e ∈ c.entries, ¬ e.IsSafe → ∃ c' : Config, e ∈ c'.entries ∧
      (∀ f ∈ c'.entries, f = e ∨ f.IsSafe) ∧ properties c'.text ≠ c'.strings :=
  ⟨c.properties_eq_strings_iff, c.properties_of_object, fun _ => c.exists_properties_ne⟩

/-! ### Samples -/

/-- A single space. -/
def space : Blank :=
  ⟨[' '], by decide⟩

/-- A color in quotes. -/
def color : Quoted :=
  ⟨'\x27', "#00b96b".toList, by decide, by decide, by decide, by decide⟩

/-- A key, a colon and a space before the value, and a space before the key. -/
def spaced (key : Text) (isIdentifier_key : isIdentifier key) (value : Value) : Entry where
  lead := space
  key := key
  isIdentifier_key := isIdentifier_key
  gap := default
  gap' := space
  value := value
  trail := default

/-- A string, a number and a conditional with a string in it. -/
def mixed : Config where
  before := "export default \x7b ".toList
  gap := default
  gap' := space
  entries := [
    spaced "colorPrimary".toList (by decide) (.string color),
    spaced "borderRadius".toList (by decide) (.number "4".toList (by decide)),
    spaced "colorText".toList (by decide) (.conditional (List.pmap .code "dark ".toList (by decide))
      [.string color] (List.pmap .code " fg".toList (by decide)))]
  tail := ",\n".toList
  isTail := by decide
  after := " \x7d".toList
  wordStart := by
    rintro _ ⟨⟩
    decide
  unique := Layout.eq_before_of_blockAt _ (by decide +kernel)

/-- A string beside a nested object. -/
def nested : Config where
  before := "export default \x7b ".toList
  gap := default
  gap' := space
  entries := [
    spaced "colorPrimary".toList (by decide) (.string color),
    spaced "sizes".toList (by decide) (.object " lg: \x278px\x27 ".toList (by decide))]
  tail := " ".toList
  isTail := by decide
  after := " \x7d".toList
  wordStart := by
    rintro _ ⟨⟩
    decide
  unique := Layout.eq_before_of_blockAt _ (by decide +kernel)

/-- A string under an identifier with which no property begins. -/
def umlaut : Entry :=
  .plain "übrig".toList (by decide) (.string color)

/-- A configuration of this entry alone. -/
def foreign : Config :=
  .ofEntries [umlaut] (List.forall_mem_singleton.mpr (noBlock_of_not_mem (by decide)))

/-- A conditional in which an identifier stands before a colon and a string. -/
def choice : Entry :=
  .plain "c".toList (by decide) (.conditional [.code 'd' (by decide)]
    (List.pmap .code "fg".toList (by decide)) [.string color])

/-- A configuration of this entry alone. -/
def branching : Config :=
  .ofEntries [choice] (List.forall_mem_singleton.mpr (noBlock_of_not_mem (by decide)))

/-- A color is read under the name of the other branch. -/
example : (properties branching.text).entries = [("fg".toList, "#00b96b".toList)] := by
  decide +kernel

/-- The string of `nested` is lost. -/
theorem properties_nested_ne :
    nested.text = "export default \x7b token: \x7b colorPrimary: \x27#00b96b\x27, ".toList
        ++ "sizes: \x7b lg: \x278px\x27 \x7d \x7d \x7d".toList ∧
      nested.strings.entries = [("colorPrimary".toList, "#00b96b".toList)] ∧
      properties nested.text = .empty ∧ properties nested.text ≠ nested.strings := by
  have hempty := nested.properties_of_object ⟨_, List.mem_cons_of_mem _ List.mem_cons_self, trivial⟩
  refine ⟨by decide +kernel, rfl, hempty, ?_⟩
  rw [hempty]
  exact fun heq => List.cons_ne_nil _ _ (congrArg OrderedMap.entries heq).symm

/-- All of `mixed` is read and nothing of `nested`, and neither `foreign` nor the entry of
`branching` is read right. -/
theorem properties_of_samples :
    ((∀ e ∈ mixed.entries, e.IsSafe) ∧ properties mixed.text = mixed.strings) ∧
      ((∃ e ∈ nested.entries, e.value.IsObject) ∧ properties nested.text = .empty) ∧
      (¬ umlaut.IsSafe ∧ properties foreign.text ≠ foreign.strings) ∧
      ¬ choice.IsSafe ∧ ∃ c : Config, choice ∈ c.entries ∧
        (∀ f ∈ c.entries, f = choice ∨ f.IsSafe) ∧ properties c.text ≠ c.strings := by
  have hmixed : ∀ e ∈ mixed.entries, e.IsSafe := by decide +kernel
  have hnested : ∃ e ∈ nested.entries, e.value.IsObject :=
    ⟨_, List.mem_cons_of_mem _ List.mem_cons_self, trivial⟩
  have humlaut : ¬ umlaut.IsSafe := by decide
  have hchoice : ¬ choice.IsSafe := by decide +kernel
  obtain ⟨hmixed_iff, -⟩ := properties_of_config mixed
  obtain ⟨-, hempty, -⟩ := properties_of_config nested
  obtain ⟨hforeign_iff, -⟩ := properties_of_config foreign
  obtain ⟨-, -, hwrong⟩ := properties_of_config branching
  refine ⟨⟨hmixed, ?_⟩, ⟨hnested, hempty hnested⟩, ⟨humlaut, ?_⟩, hchoice,
    hwrong choice (List.mem_singleton_self _) hchoice⟩
  · exact (hmixed_iff fun e he => (Entry.isSafe_iff.mp (hmixed e he)).2.2).mpr (Or.inl hmixed)
  · rw [Ne, hforeign_iff (List.forall_mem_singleton.mpr nofun)]
    rintro (hsafe | hnone)
    · exact humlaut (hsafe umlaut (List.mem_singleton_self _))
    · exact Option.some_ne_none _ (hnone umlaut (List.mem_singleton_self _))

end Script

end DesignTokens
