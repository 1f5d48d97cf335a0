import WorkflowManifest.Proofs.Json.Completeness
import WorkflowManifest.Proofs.Json.Soundness

namespace WorkflowManifest

namespace Json.Grammar

open Reader (numberKey)

/-- A dollar sign is written nowhere, neither as it is nor by its number. -/
structure DollarFree (cs : List Char) : Prop where
  plain : '$' ∉ cs
  escaped : ¬ ['0', '0', '2', '4'] <:+: cs

namespace DollarFree

variable {c : Char} {cs ds : List Char}

theorem of_infix (h : DollarFree cs) (hds : ds <:+: cs) : DollarFree ds where
  plain := fun hmem => h.plain (hds.subset hmem)
  escaped := fun hin => h.escaped (hin.trans hds)

theorem left (h : DollarFree (cs ++ ds)) : DollarFree cs :=
  h.of_infix (List.prefix_append cs ds).isInfix

theorem right (h : DollarFree (cs ++ ds)) : DollarFree ds :=
  h.of_infix (List.suffix_append cs ds).isInfix

theorem tail (h : DollarFree (c :: cs)) : DollarFree cs :=
  h.of_infix (List.suffix_cons c cs).isInfix

end DollarFree

theorem hexValue?_decimal {c : Char} {d : Nat} (h : Text.hexValue? c = some d) (hd : d < 10) :
    c = Char.ofNat (48 + d) := by
  have hc : 48 + d = c.toNat := by
    have hrange := Text.hexValue?_range h
    omega
  rw [hc, Char.ofNat_toNat]

theorem hex_dollar {hs : List Char} (h : Hex hs '$'.toNat) : hs = ['0', '0', '2', '4'] := by
  obtain ⟨a, b, c, d, m, n, p, q, rfl, ha, hb, hc, hd, hcode⟩ := h.values
  have hq := (Text.hexValue?_bounds hd).1
  have hdollar : '$'.toNat = 36 := rfl
  obtain ⟨rfl, rfl, rfl, rfl⟩ : m = 0 ∧ n = 0 ∧ p = 2 ∧ q = 4 := by omega
  rw [hexValue?_decimal ha (by decide), hexValue?_decimal hb (by decide),
    hexValue?_decimal hc (by decide), hexValue?_decimal hd (by decide)]

theorem dollar_not_mem {cs ds : List Char} (h : Chars cs ds) (hcs : DollarFree cs) : '$' ∉ ds := by
  induction h with
  | nil => exact List.not_mem_nil
  | @plain c cs ds _ _ _ _ ih =>
    have hrest := ih hcs.tail
    have hc : '$' ≠ c := fun hc => hcs.plain (hc ▸ List.mem_cons_self)
    simp [hc, hrest]
  | @short e c cs ds hc _ ih =>
    have hrest := ih hcs.tail.tail
    have hne : '$' ≠ c := by
      rintro rfl
      simp [shortEscapes] at hc
    simp [hne, hrest]
  | @unit hs cs ds c hc _ ih =>
    have hrest := ih hcs.right
    have hne : '$' ≠ c := by
      rintro rfl
      have hin : hs <:+: '\\' :: 'u' :: hs ++ cs := ⟨['\\', 'u'], cs, rfl⟩
      exact hcs.escaped (hex_dollar hc ▸ hin)
    simp [hne, hrest]
  | @pair hs ls cs ds high low c _ _ hc _ ih =>
    have hrest := ih hcs.right
    have hne : '$' ≠ c := by
      rintro rfl
      have hcode : 36 = 0x10000 + (high - 0xD800) * 0x400 + (low - 0xDC00) := hc.code
      omega
    simp [hne, hrest]

theorem key_ne_numberKey {cs : List Char} {k : String} (h : Str cs k) (hcs : DollarFree cs) :
    numberKey ≠ k := by
  rintro rfl
  obtain ⟨body, rfl, hbody⟩ := h
  exact dollar_not_mem hbody hcs.left.tail (by decide)

mutual

theorem numberKey_not_mem : ∀ {depth : Nat} {cs : List Char} (i : Json), Value depth cs i →
    DollarFree cs → numberKey ∉ i.keysWithin
  | _, _, .null, _, _ | _, _, .bool _, _, _ | _, _, .num _, _, _ | _, _, .str _, _, _ =>
    List.not_mem_nil
  | _, _, .arr xs, h, hcs => by
    cases h with
    | emptyArr h => exact List.not_mem_nil
    | arr h => exact numberKey_not_mem_items xs h hcs.left.tail
  | _, _, .obj es, h, hcs => by
    cases h with
    | emptyObj h => exact List.not_mem_nil
    | obj h => exact numberKey_not_mem_entries es h hcs.left.tail

theorem numberKey_not_mem_items : ∀ {depth : Nat} {cs : List Char} (xs : List Json),
    Items depth cs xs → DollarFree cs → numberKey ∉ itemKeys xs
  | _, _, [], _, _ => List.not_mem_nil
  | depth, _, x :: xs, h, hcs => by
    have hx {cs : List Char} (h : Item depth cs x) (hcs : DollarFree cs) :
        numberKey ∉ x.keysWithin := by
      obtain ⟨_, h, _⟩ := h
      exact numberKey_not_mem x h hcs.left.right
    rw [itemKeys, List.mem_append, not_or]
    cases h with
    | one h => exact ⟨hx h hcs, List.not_mem_nil⟩
    | more h hrest =>
      exact ⟨hx h hcs.left, numberKey_not_mem_items xs hrest hcs.right.tail⟩

theorem numberKey_not_mem_entries : ∀ {depth : Nat} {cs : List Char} (es : List (String × Json)),
    Members depth cs es → DollarFree cs → numberKey ∉ entryKeys es
  | _, _, [], _, _ => List.not_mem_nil
  | depth, _, (k, x) :: es, h, hcs => by
    have hx {cs : List Char} (h : Member depth cs (k, x)) (hcs : DollarFree cs) :
        numberKey ≠ k ∧ numberKey ∉ x.keysWithin := by
      obtain ⟨hbefore, hkey, hbetween, ⟨hinner, h, hafter⟩⟩ := h
      exact ⟨key_ne_numberKey hkey hcs.left.left.right,
        numberKey_not_mem x h hcs.right.tail.left.right⟩
    rw [entryKeys, List.cons_append, List.mem_cons, List.mem_append, not_or, not_or]
    cases h with
    | one h =>
      have hfront := hx h hcs
      exact ⟨hfront.1, hfront.2, List.not_mem_nil⟩
    | more h hrest =>
      have hfront := hx h hcs.left
      exact ⟨hfront.1, hfront.2, numberKey_not_mem_entries es hrest hcs.right.tail⟩

end

theorem numberKey_not_mem_text {cs : List Char} {i : Json} (h : Text cs i) (hcs : DollarFree cs) :
    numberKey ∉ i.keysWithin := by
  obtain ⟨before, value, after, rfl, _, _, hvalue⟩ := h
  exact numberKey_not_mem i hvalue hcs.left.right

end Json.Grammar

namespace Document

open Json
open Json.Grammar
open Json.Reader (numberKey)

theorem readEntries_eq_ok {text : String} {ds : Entries String Json}
    (h : readEntries text = .ok ds) :
    Reader.readFrom (.value .document) text.toList = .ok (.obj ds) := by
  rw [readEntries] at h
  split at h
  · cases h
  next hread =>
    cases h
    exact hread
  · cases h

theorem readEntries_iff {text : String} {ds : Entries String Json} :
    readEntries text = .ok ds ↔ ∃ es fs, Text text.toList (.obj es) ∧ MeansEntries es fs ∧
      ds = Entries.insertAll [] fs := by
  constructor
  · intro h
    obtain ⟨es, fs, htext, hfs, heq⟩ := Reader.text_of_readFrom (readEntries_eq_ok h)
    cases heq
    exact ⟨es, fs, htext, hfs, rfl⟩
  · rintro ⟨es, fs, htext, hfs, rfl⟩
    rw [readEntries, Reader.readFrom_text htext hfs]

theorem read_iff {text : String} {d : Document} :
    read text = .ok d ↔ readEntries text = .ok d.entries := by
  obtain ⟨es⟩ := d
  rw [read]
  cases readEntries text with
  | ok fs => simp [Except.map, ofEntries]
  | error f => simp [Except.map]

theorem ok_of_toOption {ε α : Type} {r : Except ε α} {a : α} (h : r.toOption = some a) :
    r = .ok a := by
  cases r with
  | ok b =>
    cases h
    rfl
  | error e => cases h

/-- Apart from texts with the key of a held number, a document is read from just the texts in which
the grammar has an object, and it is the one that this object denotes. -/
theorem read_iff_text {text : String}
    (h : ∀ i, Text text.toList i → numberKey ∉ i.keysWithin) (d : Document) :
    read text = .ok d ↔ ∃ es, Text text.toList (.obj es) ∧
      d.entries = Entries.collected (mergedEntries es) := by
  rw [read_iff, readEntries_iff]
  constructor
  · rintro ⟨es, fs, htext, hfs, hd⟩
    refine ⟨es, htext, ?_⟩
    rw [hd, hfs.eq_merged (h _ htext), Entries.insertAll_nil]
  · rintro ⟨es, htext, hd⟩
    refine ⟨es, mergedEntries es, htext, meansEntries_merged es (h _ htext), ?_⟩
    rw [hd, Entries.insertAll_nil]

def unruly : String :=
  "\t\x7b\"a\" : 0,\"b\\/\\u00E9\":[ true, \"\\ud83D\\uDe00\" ,\x7b \x7d],\n" ++
    "\"a\":\x7b\"x\":0,\"y\":[],\"x\":-1E5\x7d \x7d\r"

def unrulyCompact : String :=
  "\x7b\"a\":\x7b\"x\":-1e+5,\"y\":[]\x7d,\"b/é\":[true,\"😀\",\x7b\x7d]\x7d"

theorem read_iff_text_unruly :
    (∀ i, Text unruly.toList i → numberKey ∉ i.keysWithin) ∧ ∃ d, read unruly = .ok d ∧
      d.text = unrulyCompact ∧
      ∃ es, Text unruly.toList (.obj es) ∧ d.entries = Entries.collected (mergedEntries es) := by
  have hfree : DollarFree unruly.toList := ⟨by decide +kernel, by decide +kernel⟩
  have h (i : Json) (hi : Text unruly.toList i) : numberKey ∉ i.keysWithin :=
    numberKey_not_mem_text hi hfree
  have hread : (read unruly).toOption.map Document.text = some unrulyCompact := by
    decide +kernel
  obtain ⟨d, hd, htext⟩ := Option.map_eq_some_iff.1 hread
  have hok := ok_of_toOption hd
  exact ⟨h, d, hok, htext, (read_iff_text h d).1 hok⟩

end Document

end WorkflowManifest
