import Mathlib.Data.List.DropRight

/-!
The string methods the bridge relies on: `str.strip` with Python's notion of
white space, prefix tests, `str.upper`, and which texts `str.encode` refuses.
-/

namespace RfidBridge

/-- `str.isspace` on one character. -/
def isSpace (c : Char) : Bool :=
  let n := c.toNat
  (9 ≤ n && n ≤ 13) || (28 ≤ n && n ≤ 32) || n == 0x85 || n == 0xA0 || n == 0x1680 ||
    (0x2000 ≤ n && n ≤ 0x200A) || n == 0x2028 || n == 0x2029 || n == 0x202F ||
    n == 0x205F || n == 0x3000

def strip (s : String) : String :=
  String.ofList ((s.toList.dropWhile isSpace).rdropWhile isSpace)

def hasPrefix (s text : String) : Bool :=
  s.toList.isPrefixOf text.toList

/-- UTF-8 on Python's texts. A Python text may hold lone surrogates, which json.loads makes
of an escape such as \ud800: UTF-8 has no code for them, and no `Char` is one. Some
characters outside ASCII stand for them in the model; which ones is left open. -/
structure Utf8 where
  isSurrogate : Char → Bool
  isSurrogate_ascii : ∀ c : Char, c.toNat < 128 → isSurrogate c = false

/-- `text.encode("utf-8")` returns. -/
def Utf8.encodes (utf8 : Utf8) (text : String) : Bool :=
  !text.toList.any utf8.isSurrogate

theorem Utf8.encodes_ascii (utf8 : Utf8) {text : String}
    (ascii : ∀ c ∈ text.toList, c.toNat < 128) : utf8.encodes text = true := by
  simp only [encodes, Bool.not_eq_true', List.any_eq_false, Bool.not_eq_true]
  exact fun c member => utf8.isSurrogate_ascii c (ascii c member)

/-- The characters of evaluated runs, of which none is a lone surrogate. -/
def scalarsOnly : Char → Bool := fun _ => false

theorem scalarsOnly_ascii : ∀ c : Char, c.toNat < 128 → scalarsOnly c = false := fun _ _ => rfl

def plainUtf8 : Utf8 := ⟨scalarsOnly, scalarsOnly_ascii⟩

/-- Unicode's full upper-case mapping, which `str.upper` applies to each character. -/
structure UpperCase where
  char : Char → List Char
  ascii : ∀ c, c.toNat < 128 → char c = [c.toUpper]
  space : ∀ c, isSpace c = true → char c = [c]

/-- `str.upper`. -/
def UpperCase.upper (unicode : UpperCase) (text : String) : String :=
  String.ofList (text.toList.flatMap unicode.char)

/-- Only ASCII letters change, which suffices for hexadecimal texts. -/
def ascii : UpperCase where
  char c := [c.toUpper]
  ascii _ _ := rfl
  space c space := by
    have fixed : c.toUpper = c := by
      unfold Char.toUpper
      split
      · rename_i lower
        have range : 97 ≤ c.toNat ∧ c.toNat ≤ 122 := lower
        simp only [isSpace, Bool.or_eq_true, Bool.and_eq_true, decide_eq_true_eq,
          beq_iff_eq] at space
        omega
      · rfl
    rw [fixed]

/-- A list that starts outside `p` still does after its tail is trimmed. -/
theorem dropWhile_rdropWhile {α : Type} (p : α → Bool) (l : List α)
    (h : l.dropWhile p = l) : (l.rdropWhile p).dropWhile p = l.rdropWhile p := by
  cases l with
  | nil => simp
  | cons a l =>
      have keep : p a = false := by
        cases ha : p a with
        | false => rfl
        | true =>
            rw [List.dropWhile_cons_of_pos ha] at h
            have shorter := (List.dropWhile_sublist (l := l) p).length_le
            rw [h, List.length_cons] at shorter
            omega
      obtain ⟨rest, hr⟩ := List.rdropWhile_prefix p (l := a :: l)
      cases trimmed : (a :: l).rdropWhile p with
      | nil => simp
      | cons b t =>
          rw [trimmed] at hr
          have : b = a := (List.cons.inj hr).1
          rw [List.dropWhile_cons_of_neg (by simp [this, keep])]

@[simp] theorem strip_strip (s : String) : strip (strip s) = strip s := by
  have first : (s.toList.dropWhile isSpace).dropWhile isSpace = s.toList.dropWhile isSpace :=
    List.dropWhile_idempotent isSpace _
  simp only [strip, String.toList_ofList]
  rw [dropWhile_rdropWhile isSpace _ first, List.rdropWhile_idempotent]

theorem strip_eq_self {s : String} (h : ∀ c ∈ s.toList, isSpace c = false) : strip s = s := by
  have front : s.toList.dropWhile isSpace = s.toList := by
    apply List.dropWhile_eq_self_iff.mpr
    intro pos
    simp [h _ (List.getElem_mem pos)]
  have back : s.toList.rdropWhile isSpace = s.toList := by
    apply List.rdropWhile_eq_self_iff.mpr
    intro nonempty
    simp [h _ (List.getLast_mem nonempty)]
  rw [strip, front, back, String.ofList_toList]

/-- Printable ASCII without the blank, as reader keys and EPCs are made of. -/
def Plain (text : String) : Prop := ∀ c ∈ text.toList, 32 < c.toNat ∧ c.toNat < 127

instance (text : String) : Decidable (Plain text) :=
  List.decidableBAll (fun c : Char => 32 < c.toNat ∧ c.toNat < 127) text.toList

theorem Plain.append {first second : String} (h : Plain first) (h' : Plain second) :
    Plain (first ++ second) := by
  intro c member
  rw [String.toList_append, List.mem_append] at member
  exact member.elim (h c) (h' c)

theorem Plain.strip {text : String} (h : Plain text) : strip text = text := by
  apply strip_eq_self
  intro c member
  have := h c member
  simp only [isSpace, Bool.or_eq_false_iff, Bool.and_eq_false_iff, decide_eq_false_iff_not,
    beq_eq_false_iff_ne]
  omega

theorem Plain.encodes {text : String} (h : Plain text) (utf8 : Utf8) : utf8.encodes text = true :=
  utf8.encodes_ascii fun c member => (h c member).2.trans (by decide)

theorem Plain.noNul {text : String} (h : Plain text) : Char.ofNat 0 ∉ text.toList := by
  intro member
  exact absurd (h _ member).1 (by decide)

/-- A text is blank when white space is all it has. -/
theorem strip_eq_empty_iff {s : String} :
    strip s = "" ↔ ∀ c ∈ s.toList, isSpace c = true := by
  rw [strip, String.ofList_eq_empty_iff, List.rdropWhile_eq_nil_iff]
  constructor
  · intro trimmed c hc
    have nothing : s.toList.dropWhile isSpace = [] := by
      cases front : s.toList.dropWhile isSpace with
      | nil => rfl
      | cons d rest =>
          have blank := trimmed d (by rw [front]; exact List.mem_cons_self ..)
          have kept := List.head?_dropWhile_not isSpace s.toList
          rw [front] at kept
          simp [blank] at kept
    exact List.dropWhile_eq_nil_iff.mp nothing c hc
  · exact fun blank c hc => blank c ((List.dropWhile_sublist _).subset hc)

end RfidBridge
