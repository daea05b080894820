import AgentLaunch.Windows.PowerShell
import Mathlib.Tactic.Common

/-!
# Literals as PowerShell reads them

A literal doubles the apostrophes of its text and nothing else.  Its reader takes the typographic
quotes for single quotes too, and these are not doubled: where one of them stands alone the literal
is over, and a pair of them is read as one.  Hence a text is read back if it has none of them, and
no other text is.

* `readInside?_append` — a text without typographic quotes, and whatever follows it.
* `weight_of_readInside?` — what a literal takes up, by what is read of it.
* **`readLiteral?_literal_iff`** — the texts that are read back.
* `readLiteral?_literal_of_lone` — where the literal of another text may end.

That a text with typographic quotes is not read back needs an argument about all ways in which a
literal may go wrong, and a count replaces the case distinctions.  A quote weighs one, and every
other character two.  What is read as one character of a value takes up a weight of two, be it a plain
character or a pair of quotes, and one more quote ends the literal.  Doubling gives an apostrophe
the weight that it needs, and leaves a typographic quote with half of it.  So a text with such a
quote is too light to be read back and leave what follows.

The reader goes on from one character to the next or over a pair at once, and the induction is the
one of `readInside?`.
-/

namespace AgentLaunch.PowerShell

/-! ## Quotes -/

/-- A single quote that a literal does not double. -/
def isTypographic (c : Char) : Bool :=
  isSingleQuote c && c != '\''

/-- A text without typographic quotes. -/
def Straight (cs : List Char) : Prop := ∀ c ∈ cs, isTypographic c = false

/-- A text that does not begin with a single quote. -/
def StartsPlain (cs : List Char) : Prop := ∀ c ∈ cs.head?, isSingleQuote c = false

instance (cs : List Char) : Decidable (Straight cs) :=
  List.decidableBAll _ _

lemma isSingleQuote_apostrophe : isSingleQuote '\'' = true := rfl

section Quotes

variable {c : Char}

lemma isSingleQuote_of_isTypographic (h : isTypographic c = true) : isSingleQuote c = true := by
  rw [isTypographic, Bool.and_eq_true] at h
  exact h.1

lemma ne_apostrophe_of_isTypographic (h : isTypographic c = true) : c ≠ '\'' := by
  rintro rfl
  exact absurd h (by decide)

lemma startsPlain_of_head? {cs : List Char} (h : cs.head? = some c)
    (hc : isSingleQuote c = false) : StartsPlain cs := by
  rw [StartsPlain, h]
  rintro _ ⟨⟩
  exact hc

lemma isSingleQuote_of_not_isTypographic (h : isTypographic c = false) (hc : c ≠ '\'') :
    isSingleQuote c = false := by
  simpa [isTypographic, hc] using h

end Quotes

lemma doubleApostrophes_append (cs cs' : List Char) :
    doubleApostrophes (cs ++ cs') = doubleApostrophes cs ++ doubleApostrophes cs' := by
  induction cs with
  | nil => rfl
  | cons c cs ih =>
      rw [List.cons_append, doubleApostrophes, doubleApostrophes, ih]
      split <;> rfl

/-! ## Reading -/

section Reading

variable {c d : Char} {cs rest : List Char}

lemma straight_cons : Straight (c :: cs) ↔ isTypographic c = false ∧ Straight cs :=
  List.forall_mem_cons

/-- A character that is no quote is part of the value. -/
lemma readInside?_plain (hc : isSingleQuote c = false) (cs : List Char) :
    readInside? (c :: cs) = (readInside? cs).map fun (value, rest) => (c :: value, rest) := by
  have hc' : ¬isSingleQuote c = true := by simp [hc]
  cases cs with
  | nil => exact if_neg hc'
  | cons d cs => rw [readInside?, if_neg hc']

/-- Of two quotes the second one is part of the value. -/
lemma readInside?_pair (hc : isSingleQuote c = true) (hd : isSingleQuote d = true)
    (cs : List Char) :
    readInside? (c :: d :: cs) = (readInside? cs).map fun (value, rest) => (d :: value, rest) := by
  rw [readInside?, if_pos hc, if_pos hd]

/-- A quote that no other one follows ends the literal. -/
lemma readInside?_end (hc : isSingleQuote c = true) (hrest : StartsPlain rest) :
    readInside? (c :: rest) = some ([], rest) := by
  cases rest with
  | nil => rw [readInside?, if_pos hc]
  | cons d rest =>
      have hd : ¬isSingleQuote d = true := by simp [hrest d (by simp)]
      rw [readInside?, if_pos hc, if_neg hd]

/-- **A text without typographic quotes is read as it was**, whatever follows it. -/
lemma readInside?_append (hcs : Straight cs) (more : List Char) :
    readInside? (doubleApostrophes cs ++ more)
      = (readInside? more).map fun (value, rest) => (cs ++ value, rest) := by
  induction cs with
  | nil =>
      rw [doubleApostrophes, List.nil_append]
      cases readInside? more <;> rfl
  | cons c cs ih =>
      obtain ⟨hc, hrest⟩ := straight_cons.mp hcs
      rw [doubleApostrophes]
      by_cases happ : c = '\''
      · subst happ
        rw [if_pos rfl, List.cons_append, List.cons_append,
          readInside?_pair isSingleQuote_apostrophe isSingleQuote_apostrophe, ih hrest,
          Option.map_map]
        rfl
      · rw [if_neg happ, List.cons_append,
          readInside?_plain (isSingleQuote_of_not_isTypographic hc happ), ih hrest, Option.map_map]
        rfl

/-- The literal of a text is its opening quote, the doubled text and its closing quote. -/
lemma readLiteral?_literal (text : String) (following : List Char) :
    readLiteral? ((literal text).toList ++ following)
      = readInside? (doubleApostrophes text.toList ++ '\'' :: following) := by
  rw [literal, String.toList_ofList, List.cons_append, List.cons_append, List.append_assoc,
    List.singleton_append, readLiteral?, if_pos isSingleQuote_apostrophe]

end Reading

/-! ## What a literal takes up -/

/-- The weight of a text: a quote weighs half of what another character does. -/
def weight : List Char → Nat
  | [] => 0
  | c :: cs => (if isSingleQuote c then 1 else 2) + weight cs

lemma weight_cons (c : Char) (cs : List Char) :
    weight (c :: cs) = (if isSingleQuote c then 1 else 2) + weight cs := rfl

lemma weight_append (cs cs' : List Char) : weight (cs ++ cs') = weight cs + weight cs' := by
  induction cs with
  | nil => simp [weight]
  | cons c cs ih => rw [List.cons_append, weight_cons, weight_cons, ih, Nat.add_assoc]

/-- **Every character of a value takes up the weight of two quotes**, and one more quote ends the
literal. -/
lemma weight_of_readInside? {cs value rest : List Char}
    (h : readInside? cs = some (value, rest)) :
    weight cs = 2 * value.length + 1 + weight rest := by
  induction cs using readInside?.induct generalizing value rest with
  | case1 => cases h
  | case2 c hc =>
      rw [readInside?, if_pos hc] at h
      obtain ⟨rfl, rfl⟩ := Prod.mk.inj (Option.some.inj h)
      rw [weight_cons, if_pos hc]
      rfl
  | case3 c hc =>
      rw [readInside?, if_neg hc] at h
      cases h
  | case4 c d cs hc hd ih =>
      rw [readInside?_pair hc hd, Option.map_eq_some_iff] at h
      obtain ⟨⟨value', rest'⟩, hread, heq⟩ := h
      obtain ⟨rfl, rfl⟩ := Prod.mk.inj heq
      rw [weight_cons, weight_cons, if_pos hc, if_pos hd, ih hread, List.length_cons]
      omega
  | case5 c d cs hc hd =>
      rw [readInside?, if_pos hc, if_neg hd] at h
      obtain ⟨rfl, rfl⟩ := Prod.mk.inj (Option.some.inj h)
      rw [weight_cons, if_pos hc]
      rfl
  | case6 c d cs hc ih =>
      rw [readInside?_plain (by simpa using hc), Option.map_eq_some_iff] at h
      obtain ⟨⟨value', rest'⟩, hread, heq⟩ := h
      obtain ⟨rfl, rfl⟩ := Prod.mk.inj heq
      rw [weight_cons, if_neg hc, ih hread, List.length_cons]
      omega

/-- A typographic quote is not doubled, so it takes up half of what it should. -/
lemma weight_doubleApostrophes (cs : List Char) :
    weight (doubleApostrophes cs) + cs.countP isTypographic = 2 * cs.length := by
  induction cs with
  | nil => rfl
  | cons c cs ih =>
      rw [doubleApostrophes, List.countP_cons, List.length_cons]
      by_cases happ : c = '\''
      · subst happ
        rw [if_pos rfl, weight_cons, weight_cons, if_pos isSingleQuote_apostrophe,
          if_neg (by decide)]
        omega
      · rw [if_neg happ, weight_cons]
        cases htypo : isTypographic c with
        | true =>
            rw [if_pos (isSingleQuote_of_isTypographic htypo), if_pos rfl]
            omega
        | false =>
            have hc : ¬isSingleQuote c = true := by
              simp [isSingleQuote_of_not_isTypographic htypo happ]
            rw [if_neg hc, if_neg (by simp)]
            omega

/-! ## Literals -/

section Literals

variable {following : List Char}

/-- **A text is read back exactly if it has no typographic quote**, and then its literal leaves what
follows it. -/
lemma readLiteral?_literal_iff (text : String) (hfollowing : StartsPlain following) :
    readLiteral? ((literal text).toList ++ following) = some (text.toList, following)
      ↔ Straight text.toList := by
  rw [readLiteral?_literal]
  constructor
  · intro h
    -- What is read weighs too much for a text with such a quote.
    have hread := weight_of_readInside? h
    have hdoubled := weight_doubleApostrophes text.toList
    rw [weight_append, weight_cons, if_pos isSingleQuote_apostrophe] at hread
    have hnone : text.toList.countP isTypographic = 0 := by omega
    intro c hc
    simpa using List.countP_eq_zero.mp hnone c hc
  · intro h
    rw [readInside?_append h, readInside?_end isSingleQuote_apostrophe hfollowing]
    simp

/-- **A lone typographic quote ends the literal**, and what stands behind it in the text is left. -/
lemma readLiteral?_literal_of_lone {front code : List Char} {quote : Char} (hfront : Straight front)
    (hquote : isTypographic quote = true) (hne : code ≠ []) (hcode : StartsPlain code)
    (following : List Char) :
    readLiteral? ((literal (String.ofList (front ++ quote :: code))).toList ++ following)
      = some (front, doubleApostrophes code ++ '\'' :: following) := by
  have hdouble : doubleApostrophes (front ++ quote :: code)
      = doubleApostrophes front ++ quote :: doubleApostrophes code := by
    rw [doubleApostrophes_append, doubleApostrophes.eq_def (quote :: code)]
    exact congrArg _ (if_neg (ne_apostrophe_of_isTypographic hquote))
  have hplain : StartsPlain (doubleApostrophes code ++ '\'' :: following) := by
    cases code with
    | nil => exact absurd rfl hne
    | cons c code =>
        have hc : isSingleQuote c = false := hcode c rfl
        have happ : c ≠ '\'' := by
          rintro rfl
          exact absurd hc (by decide)
        rw [doubleApostrophes, if_neg happ]
        exact startsPlain_of_head? rfl hc
  rw [readLiteral?_literal, String.toList_ofList, hdouble, List.append_assoc, List.cons_append,
    readInside?_append hfront, readInside?_end (isSingleQuote_of_isTypographic hquote) hplain]
  simp

end Literals

end AgentLaunch.PowerShell
