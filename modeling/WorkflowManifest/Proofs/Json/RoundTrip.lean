import WorkflowManifest.Json.Printer
import WorkflowManifest.Proofs.Json.Completeness

namespace WorkflowManifest.Json

open Grammar

theorem hexValue?_hexDigit {d : Nat} (hd : d < 16) :
    Text.hexValue? (Text.hexDigit d) = some d := by
  have h : ∀ d < 16, Text.hexValue? (Text.hexDigit d) = some d := by decide
  exact h d hd

theorem hex_control {n : Nat} (h : n < 0x20) :
    Hex ['0', '0', Text.hexDigit (n / 16), Text.hexDigit (n % 16)] n := by
  have hhigh := hexValue?_hexDigit (by omega : n / 16 < 16)
  have hlow := hexValue?_hexDigit (by omega : n % 16 < 16)
  have hzero : Text.hexValue? '0' = some 0 := by decide
  refine ⟨rfl, by simp [hhigh, hlow, hzero], ?_⟩
  simp only [Text.hexNumber, List.foldl_cons, List.foldl_nil, hhigh, hlow, hzero,
    Option.getD_some]
  omega

theorem chars_escape (c : Char) {cs ds : List Char} (h : Chars cs ds) :
    Chars (escape c ++ cs) (c :: ds) := by
  unfold escape
  split
  case h_8 hquote hslash _ _ _ _ _ =>
    split
    next hc => exact .unit (hex_control hc) h
    next hc => exact .plain hquote hslash (Nat.not_lt.1 hc) h
  all_goals exact .short (by simp [shortEscapes]) h

theorem chars_escapes (cs : List Char) : Chars (cs.flatMap escape) cs := by
  induction cs with
  | nil => exact .nil
  | cons c cs ih => exact chars_escape c ih

theorem str_quote (s : String) : Str (quote s) s := ⟨_, rfl, chars_escapes s.toList⟩

theorem exponentText_charsWith {plus : List Char} (hplus : plus = [] ∨ plus = ['+'])
    (e : Option Exponent) : ExponentText e (Number.exponentChars plus e) := by
  cases e with
  | none => exact .none
  | some e =>
    apply ExponentText.some (.inl rfl)
    cases e.negative with
    | true => rfl
    | false => exact hplus

theorem numberText_charsWith {plus : List Char} (hplus : plus = [] ∨ plus = ['+']) (n : Number) :
    NumberText (n.charsWith plus) n :=
  ⟨_, exponentText_charsWith hplus n.exponent, rfl⟩

theorem item_tight {depth : Nat} {cs : List Char} {x : Json} (h : Value depth cs x) :
    Item depth cs x := by
  simpa using Item.mk .nil h .nil

theorem member_tight {depth : Nat} {cs : List Char} {x : Json} (k : String)
    (h : Value depth cs x) : Member depth (quote k ++ ':' :: cs) (k, x) := by
  simpa using Member.mk .nil (str_quote k) .nil (item_tight h)

mutual

theorem Fits.value : ∀ {room : Nat} (j : Json), Fits room j → Value room j.chars j
  | _, .null, _ => .null
  | _, .bool b, _ => .bool b
  | _, .num n, _ => .num (numberText_charsWith (.inr rfl) n)
  | _, .str s, _ => .str (str_quote s)
  | 0, .arr _, h | 0, .obj _, h => by simp [Fits] at h
  | _ + 1, .arr [], _ => .emptyArr .nil
  | _ + 1, .arr (x :: xs), h => by
    rw [Fits] at h
    exact .arr (FitsItems.items x xs h)
  | _ + 1, .obj [], _ => .emptyObj .nil
  | _ + 1, .obj (e :: es), h => by
    rw [Fits] at h
    exact .obj (FitsEntries.members e es h.2.2)

theorem FitsItems.items : ∀ {room : Nat} (x : Json) (xs : List Json), FitsItems room (x :: xs) →
    Items room (itemChars (x :: xs)) (x :: xs)
  | _, x, [], h => .one (item_tight (Fits.value x h.1))
  | _, x, y :: ys, h => .more (item_tight (Fits.value x h.1)) (FitsItems.items y ys h.2)

theorem FitsEntries.members : ∀ {room : Nat} (e : String × Json) (es : List (String × Json)),
    FitsEntries room (e :: es) → Members room (entryChars (e :: es)) (e :: es)
  | _, (k, x), [], h => .one (member_tight k (Fits.value x h.1))
  | _, (k, x), f :: es, h => by
    have hall := Members.more (member_tight k (Fits.value x h.1)) (FitsEntries.members f es h.2)
    simpa [entryChars] using hall

end

theorem text_chars {d : Document} (h : d.Storable) :
    Grammar.Text (chars (.obj d.entries)) (.obj d.entries) := by
  refine ⟨[], chars (.obj d.entries), [], by simp, .nil, .nil, ?_⟩
  cases hd : d.entries with
  | nil => exact .emptyObj .nil
  | cons e es => exact .obj (FitsEntries.members e es (hd ▸ h.fits))

theorem Reader.readFrom_chars {d : Document} (h : d.Storable) :
    readFrom (.value .document) (chars (.obj d.entries)) = .ok (.obj d.entries) := by
  rw [readFrom_text (text_chars h) (FitsEntries.means d.entries h.fits),
    Entries.insertAll_of_nodup [] d.entries h.nodup]
  rfl

end WorkflowManifest.Json
