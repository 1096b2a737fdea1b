import DesignTokens.Proofs.History
import DesignTokens.Proofs.OrderedMap
import DesignTokens.Proofs.Scanner.Completeness
import Mathlib.Data.List.Induction

/-!
# What a scanner remembers is up to date

Documents are opened, change and are scanned, several of them perhaps under one address, and the
scanner is told to forget an address or all of them.  It remembers for an address what the latest
scan handed out, with the version that was scanned (`Scanning.Sound`).  So a scan hands out the list
of the scan before exactly if that one was of the same version and nothing was forgotten since.

What is handed out then was found in a document of that version.  As long as equal versions
mean equal texts, at least since the address was forgotten last, these are the hits of the document
that is scanned (`Scanning.scan_coherent`).
-/

namespace DesignTokens

open History

namespace Scanner

/-- Something that is done with documents and a scanner. -/
inductive Step
  /-- A document is opened; it is known by its position among those that were opened. -/
  | openDocument (d : Document)
  /-- A document gets another text. -/
  | update (n : Nat) (t : Text)
  /-- A document is scanned. -/
  | scan (n : Nat)
  /-- Some lines of a document are scanned. -/
  | scanRange (n : Nat) (first last : Int)
  /-- One address is forgotten, or all of them are. -/
  | forget (uri : Option String)

/-- A scan of a document. -/
structure Reading where
  /-- The document as it was then. -/
  document : Document
  /-- The hits that were handed out. -/
  hits : List Hit
  /-- The list that they are in; lists are numbered in the order in which they are made. -/
  list : Nat

/-- Something that has happened to a scanner. -/
inductive Event
  /-- A document was scanned. -/
  | scanned (r : Reading)
  /-- One address was forgotten, or all of them were. -/
  | forgot (uri : Option String)

/-- Was the address forgotten? -/
def Event.forgets (uri : String) : Event → Bool
  | scanned _ => false
  | forgot none => true
  | forgot (some u) => decide (u = uri)

/-- The scan, if it was of a document with the address. -/
def Event.reading? (uri : String) : Event → Option Reading
  | scanned r => if r.document.uri = uri then some r else none
  | forgot _ => none

/-- The scans of an address since it was forgotten last. -/
def readings (uri : String) (h : List Event) : List Reading :=
  (sinceLast (Event.forgets uri) h).filterMap (Event.reading? uri)

/-- The latest scan of an address, whatever was forgotten since. -/
def lastReading? (uri : String) (h : List Event) : Option Reading :=
  lastSome? (Event.reading? uri) h

/-- Equal versions mean equal texts. -/
def VersionsTell (rs : List Reading) : Prop :=
  ∀ r ∈ rs, ∀ r' ∈ rs, r.document.version = r'.document.version →
    r.document.text = r'.document.text

end Scanner

open Scanner

/-- A scanner and the documents that are open, with the lists that were made. -/
structure Scanning where
  /-- The documents, in the order in which they were opened. -/
  documents : List Document
  /-- The scanner. -/
  scanner : Scanner
  /-- For each address that is remembered, the number of the list that is remembered for it. -/
  held : String → Nat
  /-- How many lists were made. -/
  made : Nat
  /-- What has happened to the scanner, oldest first. -/
  history : List Event

variable {s : Scanning} {d : Document} {h : List Event} {r : Reading} {uri : String}

/-! ### Scans of an address -/

namespace Scanner

/-- A scan counts for its address only. -/
lemma readings_scanned (uri : String) (h : List Event) (r : Reading) :
    readings uri (h ++ [.scanned r])
      = if r.document.uri = uri then readings uri h ++ [r] else readings uri h := by
  rw [readings, sinceLast_concat, if_neg (by simp [Event.forgets]), List.filterMap_append]
  by_cases hr : r.document.uri = uri
  · rw [if_pos hr, readings]
    simp [Event.reading?, hr]
  · rw [if_neg hr, readings]
    simp [Event.reading?, hr]

/-- When an address is forgotten, so are its scans. -/
lemma readings_forgot (uri : String) (h : List Event) (u : Option String) :
    readings uri (h ++ [.forgot u])
      = if Event.forgets uri (.forgot u) then [] else readings uri h := by
  rw [readings, sinceLast_concat]
  split
  · rfl
  · rw [List.filterMap_append, readings]
    exact List.append_nil _

/-- The last scan since an address was forgotten is the latest one of all. -/
lemma lastReading?_eq_of_getLast? (hr : (readings uri h).getLast? = some r) :
    lastReading? uri h = some r := by
  induction h using List.reverseRecOn with
  | nil => cases hr
  | append_singleton h e ih =>
    rw [lastReading?, lastSome?_concat]
    cases e with
    | scanned r' =>
      rw [readings_scanned] at hr
      by_cases huri : r'.document.uri = uri
      · rw [if_pos huri, List.getLast?_concat] at hr
        rw [Event.reading?, if_pos huri, hr, Option.some_or]
      · rw [if_neg huri] at hr
        rw [Event.reading?, if_neg huri, Option.none_or]
        exact ih hr
    | forgot u =>
      rw [readings_forgot] at hr
      split at hr
      · cases hr
      · exact ih hr

/-- The latest scan of an address is one that happened. -/
lemma mem_of_lastReading? (hr : lastReading? uri h = some r) : .scanned r ∈ h := by
  obtain ⟨e, he, hword⟩ := List.exists_of_findSome?_eq_some hr
  cases e with
  | scanned r' =>
    rw [Event.reading?] at hword
    split at hword
    · cases hword
      exact List.mem_reverse.mp he
    · cases hword
  | forgot u => cases hword

end Scanner

/-- The hits of a document depend on its text only. -/
lemma Document.hits_congr {d d' : Document} (htext : d.text = d'.text) : d.hits = d'.hits := by
  rw [hits_eq, hits_eq, htext]

namespace Scanning

/-! ### Steps -/

/-- No document is open, and nothing is remembered. -/
def initial : Scanning :=
  ⟨[], .empty, fun _ => 0, 0, []⟩

/-- Scan a document.  Hits that are remembered are handed out in the list that is remembered; else
a list is made. -/
def look (s : Scanning) (d : Document) : Scanning :=
  let (outcome, scanner) := s.scanner.scan d
  if outcome.remembered then
    { s with scanner, history := s.history ++ [.scanned ⟨d, outcome.hits, s.held d.uri⟩] }
  else
    { s with
      scanner, held := Function.update s.held d.uri s.made, made := s.made + 1,
      history := s.history ++ [.scanned ⟨d, outcome.hits, s.made⟩] }

/-- The state behind a step. -/
def step (s : Scanning) : Step → Scanning
  | .openDocument d => { s with documents := s.documents ++ [d] }
  | .update n t => { s with documents := s.documents.modify n fun d => d.update t }
  | .scan n =>
      match s.documents[n]? with
      | some d => s.look d
      | none => s
  | .scanRange _ _ _ => s
  | .forget uri =>
      { s with scanner := s.scanner.forget uri, history := s.history ++ [.forgot uri] }

/-- The state behind steps that are done one after another. -/
def after (steps : List Step) : Scanning :=
  steps.foldl step initial

/-! ### What holds at any time -/

/-- For each address the scanner remembers the latest scan since the address was forgotten, and
what was handed out since then was found in a document of that version. -/
structure Sound (s : Scanning) : Prop where
  /-- The version and the hits of the latest scan are remembered. -/
  memory_eq : ∀ uri, s.scanner.memory.get? uri
    = (readings uri s.history).getLast?.map fun r => (r.document.version, r.hits)
  /-- The list of the latest scan is remembered. -/
  held_eq : ∀ uri r, (readings uri s.history).getLast? = some r → s.held uri = r.list
  /-- What was handed out is in a list that was made. -/
  list_lt : ∀ r, .scanned r ∈ s.history → r.list < s.made
  /-- What was handed out was found in a document of the same version. -/
  found : ∀ uri, ∀ r ∈ readings uri s.history, ∃ r₀ ∈ readings uri s.history,
    r₀.document.version = r.document.version ∧ r.hits = r₀.document.hits

/-- At first nothing is remembered. -/
lemma sound_initial : initial.Sound where
  memory_eq := fun _ => rfl
  held_eq := by
    intro uri r hr
    cases hr
  list_lt := by
    intro r hr
    cases hr
  found := by
    intro uri r hr
    cases hr

/-- A scan hands out again what the latest scan of the address handed out, if that was of the same
version; else it makes a list of the hits of the document. -/
lemma Sound.look_cases (hs : s.Sound) (d : Document) :
    (∃ r, (readings d.uri s.history).getLast? = some r ∧ r.document.version = d.version ∧
        s.look d = { s with history := s.history ++ [.scanned ⟨d, r.hits, r.list⟩] }) ∨
      (∀ r, (readings d.uri s.history).getLast? = some r → r.document.version ≠ d.version) ∧
        s.look d = { s with
          scanner := ⟨s.scanner.memory.insert d.uri (d.version, d.hits)⟩,
          held := Function.update s.held d.uri s.made, made := s.made + 1,
          history := s.history ++ [.scanned ⟨d, d.hits, s.made⟩] } := by
  have hmemory := hs.memory_eq d.uri
  cases hlast : (readings d.uri s.history).getLast? with
  | none =>
    have hnone : s.scanner.remembered? d = none := by
      rw [remembered?, hmemory, hlast]
      rfl
    exact Or.inr ⟨fun r hr => (nomatch hr), by rw [look, scan, hnone]; rfl⟩
  | some r =>
    rw [hlast, Option.map_some] at hmemory
    by_cases hversion : r.document.version = d.version
    · have hsome : s.scanner.remembered? d = some r.hits := by
        rw [remembered?, hmemory]
        exact if_pos hversion
      refine Or.inl ⟨r, rfl, hversion, ?_⟩
      rw [look, scan, hsome, ← hs.held_eq d.uri r hlast]
      rfl
    · have hnone : s.scanner.remembered? d = none := by
        rw [remembered?, hmemory]
        exact if_neg hversion
      refine Or.inr ⟨?_, by rw [look, scan, hnone]; rfl⟩
      rintro _ ⟨⟩
      exact hversion

/-- One more scan of the address is found in a document of its version, if its hits are those of
the document or those of a scan of that version. -/
lemma found_concat {rs : List Reading}
    (hrs : ∀ r ∈ rs, ∃ r₀ ∈ rs, r₀.document.version = r.document.version ∧
      r.hits = r₀.document.hits)
    (hr : r.hits = r.document.hits ∨
      ∃ r' ∈ rs, r'.document.version = r.document.version ∧ r'.hits = r.hits) :
    ∀ x ∈ rs ++ [r], ∃ r₀ ∈ rs ++ [r], r₀.document.version = x.document.version ∧
      x.hits = r₀.document.hits := by
  intro x hx
  rcases List.mem_append.mp hx with hx | hx
  · obtain ⟨r₀, hr₀, heq⟩ := hrs x hx
    exact ⟨r₀, List.mem_append_left _ hr₀, heq⟩
  · rw [List.mem_singleton.mp hx]
    rcases hr with hown | ⟨r', hr', hversion, hhits⟩
    · exact ⟨r, by simp, rfl, hown⟩
    · obtain ⟨r₀, hr₀, hversion₀, hhits₀⟩ := hrs r' hr'
      exact ⟨r₀, List.mem_append_left _ hr₀, hversion₀.trans hversion, hhits.symm.trans hhits₀⟩

/-- One more scan, of which the version, the hits and the list are remembered. -/
lemma Sound.scanned {s' : Scanning} (hs : s.Sound)
    (hhistory : s'.history = s.history ++ [.scanned r])
    (hmemory : ∀ uri, s'.scanner.memory.get? uri = if r.document.uri = uri
      then some (r.document.version, r.hits) else s.scanner.memory.get? uri)
    (hheld : ∀ uri, s'.held uri = if r.document.uri = uri then r.list else s.held uri)
    (hmade : s.made ≤ s'.made) (hlist : r.list < s'.made)
    (hfound : r.hits = r.document.hits ∨ ∃ r' ∈ readings r.document.uri s.history,
      r'.document.version = r.document.version ∧ r'.hits = r.hits) : s'.Sound where
  memory_eq := by
    intro uri
    rw [hhistory, hmemory, readings_scanned]
    split
    · rw [List.getLast?_concat, Option.map_some]
    · exact hs.memory_eq uri
  held_eq := by
    intro uri r' hr'
    rw [hhistory, readings_scanned] at hr'
    rw [hheld]
    split at hr'
    · next huri =>
      rw [List.getLast?_concat] at hr'
      cases hr'
      exact if_pos huri
    · next huri => exact (if_neg huri).trans (hs.held_eq uri r' hr')
  list_lt := by
    intro r' hr'
    rw [hhistory] at hr'
    rcases List.mem_append.mp hr' with hr' | hr'
    · exact Nat.lt_of_lt_of_le (hs.list_lt r' hr') hmade
    · cases List.mem_singleton.mp hr'
      exact hlist
  found := by
    intro uri
    rw [hhistory, readings_scanned]
    split
    · next huri => exact found_concat (hs.found uri) (huri ▸ hfound)
    · exact hs.found uri

/-- Looking a document up keeps the memory up to date. -/
lemma Sound.look (hs : s.Sound) (d : Document) : (s.look d).Sound := by
  -- Either the last reading is of this version and is given again, or the document is scanned.
  rcases hs.look_cases d with ⟨r, hlast, hversion, heq⟩ | ⟨-, heq⟩
  · have hheld := hs.held_eq d.uri r hlast
    have hmemory : s.scanner.memory.get? d.uri = some (d.version, r.hits) := by
      rw [hs.memory_eq, hlast, Option.map_some, hversion]
    have hmade := hs.list_lt r (mem_of_lastReading? (lastReading?_eq_of_getLast? hlast))
    rw [heq]
    refine hs.scanned rfl ?_ ?_ (Nat.le_refl _) hmade
      (Or.inr ⟨r, List.mem_of_getLast? hlast, hversion, rfl⟩)
    · intro uri
      split
      · next huri => exact huri ▸ hmemory
      · rfl
    · intro uri
      split
      · next huri => exact huri ▸ hheld
      · rfl
  · rw [heq]
    refine hs.scanned rfl (fun _ => OrderedMap.get?_insert) ?_ (Nat.le_succ _) (Nat.lt_succ_self _)
      (Or.inl rfl)
    intro uri
    simp only [Function.update_apply, eq_comm]

/-- Forgetting an address, or all of them, keeps the memory up to date. -/
lemma Sound.forget (hs : s.Sound) (u : Option String) : (s.step (.forget u)).Sound where
  memory_eq := by
    intro uri
    change (s.scanner.forget u).memory.get? uri
      = (readings uri (s.history ++ [.forgot u])).getLast?.map _
    rw [readings_forgot]
    cases u with
    | none => rfl
    | some u =>
      rw [Scanner.forget, OrderedMap.get?_erase, Event.forgets]
      by_cases hu : u = uri
      · simp [hu]
      · simpa [hu] using hs.memory_eq uri
  held_eq := by
    intro uri r hr
    change (readings uri (s.history ++ [.forgot u])).getLast? = some r at hr
    rw [readings_forgot] at hr
    split at hr
    · cases hr
    · exact hs.held_eq uri r hr
  list_lt := by
    intro r hr
    rcases List.mem_append.mp hr with hr | hr
    · exact hs.list_lt r hr
    · cases List.mem_singleton.mp hr
  found := by
    intro uri
    change ∀ r ∈ readings uri (s.history ++ [.forgot u]),
      ∃ r₀ ∈ readings uri (s.history ++ [.forgot u]), _
    rw [readings_forgot]
    split
    · intro r hr
      cases hr
    · exact hs.found uri

/-- Every step keeps the memory up to date. -/
lemma Sound.step (hs : s.Sound) : ∀ what, (s.step what).Sound
  | .openDocument _ => ⟨hs.memory_eq, hs.held_eq, hs.list_lt, hs.found⟩
  | .update _ _ => ⟨hs.memory_eq, hs.held_eq, hs.list_lt, hs.found⟩
  | .scan n => by
      rw [Scanning.step]
      split
      · exact hs.look _
      · exact hs
  | .scanRange _ _ _ => hs
  | .forget u => hs.forget u

/-- The memory is up to date at any time. -/
lemma sound_after (steps : List Step) : (after steps).Sound := by
  induction steps using List.reverseRecOn with
  | nil => exact sound_initial
  | append_singleton steps what ih =>
    rw [after, List.foldl_concat]
    exact ih.step what

/-! ### Scans of a run -/

/-- A scan hands out the list of the scan before exactly if that was of the same version. -/
lemma Sound.same_list_iff (hs : s.Sound) (d : Document) :
    ∃ r, (s.look d).history = s.history ++ [.scanned r] ∧ r.document = d ∧
      ((∃ previous, lastReading? d.uri s.history = some previous ∧ r.list = previous.list) ↔
        ∃ latest, (readings d.uri s.history).getLast? = some latest ∧
          latest.document.version = d.version) := by
  rcases hs.look_cases d with ⟨r, hlast, hversion, heq⟩ | ⟨hother, heq⟩
  · refine ⟨_, congrArg history heq, rfl, fun _ => ⟨r, hlast, hversion⟩, fun _ => ?_⟩
    exact ⟨r, lastReading?_eq_of_getLast? hlast, rfl⟩
  · refine ⟨_, congrArg history heq, rfl, ?_, ?_⟩
    · rintro ⟨previous, hprevious, hlist⟩
      exact absurd hlist (hs.list_lt previous (mem_of_lastReading? hprevious)).ne'
    · rintro ⟨latest, hlatest, hversion⟩
      exact absurd hversion (hother latest hlatest)

/-- A scan hands out the hits of the document, if equal versions mean equal texts. -/
lemma Sound.hits_eq (hs : s.Sound) (htell : VersionsTell (readings uri s.history))
    (hr : r ∈ readings uri s.history) : r.hits = r.document.hits := by
  obtain ⟨r₀, hr₀, hversion, hhits⟩ := hs.found uri r hr
  rw [hhits]
  exact Document.hits_congr (htell r₀ hr₀ r hr hversion)

/-- Whatever was done before, a scan of an open document hands out the list that the scan of the
same address before it handed out exactly if the latest scan was of the same version and the address
was not forgotten since.  If equal versions mean equal texts among the scans since the address was
forgotten last, this one included, then it hands out what a scanner without memory finds. -/
theorem scan_coherent (steps : List Step) {n : Nat} {d : Document}
    (hd : (after steps).documents[n]? = some d) :
    let s := after steps
    ∃ r, (s.step (.scan n)).history = s.history ++ [.scanned r] ∧ r.document = d ∧
      ((∃ previous, lastReading? d.uri s.history = some previous ∧ r.list = previous.list) ↔
        ∃ latest, (readings d.uri s.history).getLast? = some latest ∧
          latest.document.version = d.version) ∧
      (VersionsTell (readings d.uri s.history ++ [r]) →
        r.hits = (Scanner.empty.scan d).1.hits) := by
  intro s
  have hs : s.Sound := sound_after steps
  have hstep : s.step (.scan n) = s.look d := by
    rw [Scanning.step, hd]
  obtain ⟨r, hhistory, rfl, hlist⟩ := hs.same_list_iff d
  rw [hstep]
  refine ⟨r, hhistory, rfl, hlist, fun htell => ?_⟩
  have hreadings : readings r.document.uri (s.look r.document).history
      = readings r.document.uri s.history ++ [r] := by
    rw [hhistory, readings_scanned, if_pos rfl]
  rw [← hreadings] at htell
  have hmem : r ∈ readings r.document.uri (s.look r.document).history := by
    rw [hreadings]
    simp
  exact (hs.look r.document).hits_eq htell hmem

/-- A document is scanned, and opened again with a lower version, which is scanned too.  The address
is forgotten, and the version comes up at which the text was another one before. -/
def reopening : List Step :=
  [.openDocument ⟨"a.css", "var(--a)".toList, "css", 2⟩, .scan 0,
    .openDocument ⟨"a.css", "var(--b)".toList, "css", 1⟩, .scan 1, .forget (some "a.css"),
    .update 1 "var(--c)".toList, .scan 1]

/-- One more scan hands out the same list, and it has the hits of the text that the document has
now. -/
theorem scan_coherent_reopening :
    let s := after reopening
    let d : Document := ⟨"a.css", "var(--c)".toList, "css", 2⟩
    s.documents[1]? = some d ∧
      ∃ r, (s.step (.scan 1)).history = s.history ++ [.scanned r] ∧
        VersionsTell (readings d.uri s.history ++ [r]) ∧
        (∃ previous, lastReading? d.uri s.history = some previous ∧ r.list = previous.list) ∧
        r.hits = (Scanner.empty.scan d).1.hits := by
  intro s d
  have hd : s.documents[1]? = some d := rfl
  obtain ⟨r, hhistory, hdocument, hlist, hhits⟩ := scan_coherent reopening hd
  obtain ⟨latest, hreadings, hlatest⟩ :
      ∃ latest, readings d.uri s.history = [latest] ∧ latest.document = d := ⟨_, rfl, rfl⟩
  have htell : VersionsTell (readings d.uri s.history ++ [r]) := by
    rw [hreadings]
    intro a ha b hb _
    have hboth : ∀ x ∈ [latest] ++ [r], x.document = d := by
      simpa using ⟨hlatest, hdocument⟩
    rw [hboth a ha, hboth b hb]
  refine ⟨hd, r, hhistory, htell, hlist.mpr ⟨latest, ?_, congrArg _ hlatest⟩, hhits htell⟩
  exact congrArg List.getLast? hreadings

end Scanning

end DesignTokens
