import GridScript.Proofs.Formula.Syntax.RoundTrip

namespace GridScript.Formula

/-!
# Texts of references

Every reference of a formula that has been read was made of one lexeme of the
text, so it can be written. Its normal form tells it from all other references,
and is itself a formula for it, unless the sheet name stands without quotes
there although it has letters or digits that no plain sheet name has.
-/

open GridScript.Parsing
open GridScript.Parsing.Lexicon
open GridScript.Parsing.Language
open GridScript.Text

/-- The sheet name of a reference, if it has one. -/
def Reference.sheet? : Reference → Option String
  | cell sheet _ => sheet
  | range sheet _ _ => sheet

/-! ## Lexemes of references -/

theorem yields_fixed (pattern : List Char) :
    Head.Yields (· = pattern) (fixedLength? pattern) := by
  induction pattern with
  | nil =>
      intro cs n found
      obtain rfl := Option.some.inj found
      rfl
  | cons p pattern inductionHypothesis =>
      intro cs n found
      cases cs with
      | nil =>
          cases found
      | cons c cs =>
          unfold fixedLength? at found
          split at found
          next same =>
            obtain ⟨length, isRest, rfl⟩ := Option.map_eq_some_iff.mp found
            rw [List.take_succ_cons, inductionHypothesis cs length isRest, same]
          next =>
            cases found

/-- A sheet name and its exclamation mark: a plain name, or any name in quotes. -/
inductive IsQualifier : List Char → String → Prop where
  | plain {name : String} (isPlain : isPlainSheet name = true) :
      IsQualifier (name.toList ++ ['!']) name
  | quoted {name : String} (isSheet : IsSheetName name) :
      IsQualifier ('\'' :: name.toList ++ ['\'', '!']) name

/-- A sheet name without quotes is a plain one. -/
theorem yields_sheet :
    sheetLength?.Yields fun text => ∃ name, IsQualifier text name := by
  have names :
      Head.Yields (fun text => isPlainSheet (String.ofList text) = true)
        nameLength? := by
    intro cs n found
    unfold nameLength? at found
    split at found
    next c rest =>
      split at found
      next starts =>
        obtain rfl := Option.some.inj found
        have inside : (rest.takeWhile isNameChar).all isNameChar = true :=
          List.all_eq_true.mpr fun c => List.mem_takeWhile_imp
        rw [List.take_succ_cons,
          ← List.prefix_iff_eq_take.mp
            (List.takeWhile_prefix isNameChar (l := rest)), isPlainSheet,
          String.toList_ofList]
        exact Bool.and_eq_true_iff.mpr ⟨starts, inside⟩
      next =>
        cases found
    next =>
      cases found
  intro cs n found
  obtain ⟨name, _, same, isPlain, rfl⟩ :=
    names.andThen (yields_fixed ['!']) cs n found
  have qualifier := IsQualifier.plain isPlain
  rw [String.toList_ofList] at qualifier
  exact ⟨_, same ▸ qualifier⟩

/-- A sheet name in quotes has no quotes in it. -/
theorem yields_quotedSheet :
    quotedSheetLength?.Yields fun text => ∃ name, IsQualifier text name := by
  have parts := (yields_fixed ['\'']).andThen
    ((yields_run (· != '\'')).andThen (yields_fixed ['\'', '!']))
  intro cs n found
  obtain ⟨_, _, same, rfl, name, _, rfl, ⟨nonempty, inside⟩, rfl⟩ :=
    parts cs n found
  have isSheet : IsSheetName (String.ofList name) := by
    refine ⟨?_, fun member => ?_⟩
    · rwa [String.toList_ofList]
    · rw [String.toList_ofList] at member
      cases inside _ member
  have qualifier := IsQualifier.quoted isSheet
  rw [String.toList_ofList] at qualifier
  exact ⟨_, same ▸ qualifier⟩

/-- A text that is an address apart from dollar signs. -/
structure IsSpelled (text : List Char) : Prop where
  isAddress : IsAddress (String.ofList (replaceChar '$' [] text))
  chars : ∀ c ∈ text, isAddressChar c = true

theorem yields_spelled : addressLength?.Yields IsSpelled :=
  fun cs n found => ⟨yields_address cs n found, reads_address cs n found⟩

/-- A range is two addresses around a colon. -/
theorem yields_range :
    rangeLength?.Yields fun text =>
      ∃ start finish, IsSpelled start ∧ IsSpelled finish ∧
        text = start ++ ':' :: finish := by
  intro cs n found
  obtain ⟨start, _, same, isStart, _, finish, rfl, rfl, isFinish⟩ :=
    yields_spelled.andThen ((yields_fixed [':']).andThen yields_spelled) cs n found
  exact ⟨start, finish, isStart, isFinish, same⟩

namespace IsSpelled

variable {text start finish : List Char}

theorem visible
    (isSpelled : IsSpelled text) :
    ∀ c ∈ text, isBlank c = false := by
  intro c member
  have isChar := isSpelled.chars c member
  simp only [isAddressChar, Bool.or_eq_true, beq_iff_eq] at isChar
  rcases isChar with (rfl | capital) | digit
  · rfl
  · exact isBlank_of_isNameChar
      (isNameChar_of_isNameStart (isNameStart_of_isCapital capital))
  · exact isBlank_of_isNameChar (isNameChar_of_isDigit digit)

theorem upper
    (isSpelled : IsSpelled text) :
    ∀ c ∈ replaceChar '$' [] text, upperChar c = [c] := fun c member =>
  isSpelled.isAddress.upper (by rwa [String.toList_ofList])

/-- The normal form of a spelled address is the address. -/
theorem plainAddress_eq
    (isSpelled : IsSpelled text) :
    plainAddress text = String.ofList (replaceChar '$' [] text) :=
  upper_of_upperChar isSpelled.upper

/-- The normal form of a spelled range has the two addresses. -/
theorem splitRange_eq
    (isStart : IsSpelled start)
    (isFinish : IsSpelled finish) :
    splitRange (plainAddress (start ++ ':' :: finish)) =
      (String.ofList (replaceChar '$' [] start),
        String.ofList (replaceChar '$' [] finish)) := by
  have plain : replaceChar '$' [] (start ++ ':' :: finish) =
      replaceChar '$' [] start ++ ':' :: replaceChar '$' [] finish :=
    replaceChar_append '$' start (':' :: finish)
  have normal :=
    splitRange_range isStart.isAddress (String.ofList (replaceChar '$' [] finish))
  rw [String.toList_ofList, String.toList_ofList] at normal
  rw [plainAddress, plain, upper_of_upperChar, normal]
  exact List.forall_mem_append.mpr ⟨isStart.upper,
    List.forall_mem_cons.mpr ⟨rfl, isFinish.upper⟩⟩

end IsSpelled

/-! ## References of lexemes -/

/-- A reference that a lexeme stands for: it can be written, and its sheet name
is plain unless the lexeme has quotes. -/
structure Fits (lexeme : List Char) (r : Reference) : Prop where
  writable : IsWritableReference r
  sheet : ∀ name, r.sheet? = some name → isPlainSheet name = true ∨ '\'' ∈ lexeme

namespace IsQualifier

variable {qualifier addresses : List Char} {name : String}

theorem isSheetName
    (isQualifier : IsQualifier qualifier name) :
    IsSheetName name := by
  cases isQualifier with
  | quoted isSheet =>
      exact isSheet
  | plain isPlain =>
      obtain ⟨⟨c, rest, chars, -⟩, inside⟩ := isName_of_isPlainSheet isPlain
      refine ⟨by simp [chars], fun member => ?_⟩
      cases inside _ member

theorem plain_or_quote
    (isQualifier : IsQualifier qualifier name)
    (addresses : List Char) :
    isPlainSheet name = true ∨ '\'' ∈ qualifier ++ addresses := by
  cases isQualifier with
  | plain isPlain =>
      exact .inl isPlain
  | quoted isSheet =>
      exact .inr (by simp)

theorem splitQualified?_eq
    (isQualifier : IsQualifier qualifier name)
    (visible : ∀ c ∈ addresses, isBlank c = false) :
    splitQualified? (qualifier ++ addresses) =
      some (name, plainAddress addresses) := by
  have last : ∀ c ∈ addresses.getLast?, isBlank c = false := fun c isLast =>
    visible c (List.mem_of_getLast? isLast)
  cases isQualifier with
  | plain isPlain =>
      exact splitQualified?_plain isPlain last
  | quoted isSheet =>
      exact splitQualified?_quoted isSheet last

/-- A qualified address stands for a cell of the sheet. -/
theorem fits_cell
    (isQualifier : IsQualifier qualifier name)
    (isSpelled : IsSpelled addresses) :
    Fits (qualifier ++ addresses) (.ofSheetCell (qualifier ++ addresses)) := by
  rw [Reference.ofSheetCell, isQualifier.splitQualified?_eq isSpelled.visible,
    isSpelled.plainAddress_eq]
  refine ⟨⟨fun other same => ?_, isSpelled.isAddress⟩, fun other same => ?_⟩
  · cases same
    exact isQualifier.isSheetName
  · cases same
    exact isQualifier.plain_or_quote addresses

/-- A qualified range stands for a range of the sheet. -/
theorem fits_range
    {start finish : List Char}
    (isQualifier : IsQualifier qualifier name)
    (isStart : IsSpelled start)
    (isFinish : IsSpelled finish) :
    Fits (qualifier ++ (start ++ ':' :: finish))
      (.ofSheetRange (qualifier ++ (start ++ ':' :: finish))) := by
  have visible : ∀ c ∈ start ++ ':' :: finish, isBlank c = false :=
    List.forall_mem_append.mpr ⟨isStart.visible,
      List.forall_mem_cons.mpr ⟨rfl, isFinish.visible⟩⟩
  rw [Reference.ofSheetRange, isQualifier.splitQualified?_eq visible]
  dsimp only
  rw [isStart.splitRange_eq isFinish]
  refine ⟨⟨fun other same => ?_, isStart.isAddress, isFinish.isAddress⟩,
    fun other same => ?_⟩
  · cases same
    exact isQualifier.isSheetName
  · cases same
    exact isQualifier.plain_or_quote _

end IsQualifier

/-- The kind of the lexeme of a rule for references, and what the rule makes of
it. -/
def Rule.reference? : Rule → Option (Terminal × (List Char → Reference))
  | quotedSheetRange => some (.quotedSheetRange, .ofSheetRange)
  | sheetRange => some (.sheetRange, .ofSheetRange)
  | quotedSheetCell => some (.quotedSheetCell, .ofSheetCell)
  | sheetCell => some (.sheetCell, .ofSheetCell)
  | range => some (.range, .ofRange)
  | cell => some (.cell, .ofCell)
  | _ => none

/-- A rule for references makes a reference that its lexeme stands for. -/
theorem fits_of_lexeme
    {rule : Rule}
    {kind : Terminal}
    {make : List Char → Reference}
    (isRule : rule.reference? = some (kind, make)) :
    Head.Yields (fun text => Fits text (make text)) kind.length? := by
  have cells {head : Head}
      (qualifiers : head.Yields fun text => ∃ name, IsQualifier text name) :
      (Head.andThen head addressLength?).Yields fun text =>
        Fits text (.ofSheetCell text) := by
    intro cs n found
    obtain ⟨qualifier, addresses, same, ⟨name, isQualifier⟩, isSpelled⟩ :=
      qualifiers.andThen yields_spelled cs n found
    rw [same]
    exact isQualifier.fits_cell isSpelled
  have ranges {head : Head}
      (qualifiers : head.Yields fun text => ∃ name, IsQualifier text name) :
      (Head.andThen head rangeLength?).Yields fun text =>
        Fits text (.ofSheetRange text) := by
    intro cs n found
    obtain ⟨qualifier, _, same, ⟨name, isQualifier⟩, start, finish, isStart,
      isFinish, rfl⟩ :=
      qualifiers.andThen yields_range cs n found
    rw [same]
    exact isQualifier.fits_range isStart isFinish
  have noSheet {P : String → Prop} (name : String) (held : none = some name) :
      P name := by
    cases held
  unfold Rule.reference? at isRule
  split at isRule <;> cases isRule
  · exact ranges yields_quotedSheet
  · exact ranges yields_sheet
  · exact cells yields_quotedSheet
  · exact cells yields_sheet
  · intro cs n found
    obtain ⟨start, finish, isStart, isFinish, same⟩ := yields_range cs n found
    rw [same, Reference.ofRange, isStart.splitRange_eq isFinish]
    exact ⟨⟨noSheet, isStart.isAddress, isFinish.isAddress⟩, noSheet⟩
  · intro cs n found
    have isSpelled := yields_spelled cs n found
    rw [Reference.ofCell, isSpelled.plainAddress_eq]
    exact ⟨⟨noSheet, isSpelled.isAddress⟩, noSheet⟩

/-! ## References of formulas -/

theorem gathers_references : Gathers Expression.allReferences where
  signed _ _ := rfl
  binary _ _ _ := rfl
  call _ items := by
    rw [Expression.allReferences]
    induction items with
    | nil =>
        rfl
    | cons e items inductionHypothesis =>
        rw [Expression.allReferencesOf, inductionHypothesis, List.flatMap_cons]

/-- The references in a phrase. -/
def Phrase.references (phrase : Phrase) : List Reference :=
  phrase.gathered Expression.allReferences

/-- Only the rules for references make references. -/
theorem allReferences_of_atom?
    {rule : Rule}
    {token : Token Terminal}
    {atom : Expression}
    (other : rule.reference? = none)
    (isAtom : rule.atom? token = some atom) :
    atom.allReferences = [] := by
  unfold Rule.atom? at isAtom
  split at isAtom <;> cases isAtom <;> first | rfl | cases other

/-- A number has no references. -/
theorem numberLiteral_references
    {token : Token Terminal}
    {phrase : Phrase}
    (built : numberLiteral token = .ok phrase) :
    phrase.references = [] := by
  unfold numberLiteral at built
  dsimp only at built
  split at built
  · cases built
    rfl
  · split at built <;> cases built <;> rfl

/-- A rule other than those for references makes a phrase with no references but
those of its parts. -/
theorem references_of_build
    {rule : Rule}
    {parts : List Phrase}
    {phrase : Phrase}
    (other : rule.reference? = none)
    (built : buildPhrase rule parts = .ok phrase) :
    phrase.references ⊆ parts.flatMap Phrase.references := by
  unfold buildPhrase at built
  split at built
  next token =>
    rw [numberLiteral_references built]
    exact List.nil_subset _
  next =>
    cases built
    exact gathers_references.buildPhrase fun _ _ => allReferences_of_atom? other

/-- A token whose text is a lexeme of its kind. -/
def IsLexeme (token : Token Terminal) : Prop :=
  ∃ cs n, token.kind.length? cs = some n ∧ token.text = cs.take n

/-- Every reference of a phrase is one that a token of the phrase stands for. -/
def Refers : GrammarSymbol Terminal Category → List (Token Terminal) → Phrase → Prop
  | .token kind, tokens, phrase =>
      ∃ token, tokens = [token] ∧ phrase = .token token ∧ token.kind = kind
  | .phrase _, tokens, phrase =>
      (∀ token ∈ tokens, IsLexeme token) →
        ∀ r ∈ phrase.references, ∃ token ∈ tokens, Fits token.text r

theorem Refers.of_part
    {symbol : GrammarSymbol Terminal Category}
    {tokens : List (Token Terminal)}
    {part : Phrase}
    {r : Reference}
    (refers : Refers symbol tokens part)
    (lexemes : ∀ token ∈ tokens, IsLexeme token)
    (member : r ∈ part.references) :
    ∃ token ∈ tokens, Fits token.text r := by
  cases symbol with
  | token kind =>
      obtain ⟨token, -, rfl, -⟩ := refers
      cases member
  | phrase category =>
      exact refers lexemes r member

/-- Rules hand on what their parts refer to. -/
theorem Refers.build
    {rule : Rule}
    {tokens : List (Token Terminal)}
    {parts : List Phrase}
    {phrase : Phrase}
    (aligned : Aligned Refers (grammar.symbols rule) tokens parts)
    (built : buildPhrase rule parts = .ok phrase) :
    Refers (.phrase rule.category) tokens phrase := by
  intro lexemes r member
  cases isReference : rule.reference? with
  | some made =>
      obtain ⟨kind, make⟩ := made
      have shape : grammar.symbols rule = [.token kind] ∧ ∀ token : Token Terminal,
          buildPhrase rule [.token token] =
            .ok (.expression (.reference (make token.text))) := by
        unfold Rule.reference? at isReference
        split at isReference <;> cases isReference <;> exact ⟨rfl, fun _ => rfl⟩
      rw [shape.1] at aligned
      cases aligned with
      | cons first later =>
          cases later
          obtain ⟨token, rfl, rfl, rfl⟩ := first
          rw [shape.2 token] at built
          cases built
          obtain ⟨cs, n, found, text⟩ := lexemes token List.mem_cons_self
          obtain rfl := List.mem_singleton.mp member
          exact ⟨token, List.mem_cons_self,
            text ▸ fits_of_lexeme isReference cs n found⟩
  | none =>
      have inParts := references_of_build isReference built member
      obtain ⟨part, isPart, inPart⟩ := List.mem_flatMap.mp inParts
      obtain ⟨symbol, -, segment, inside, refers⟩ := aligned.exists_of_mem isPart
      obtain ⟨token, inSegment, fits⟩ :=
        refers.of_part (fun token member => lexemes token (inside.subset member))
          inPart
      exact ⟨token, inside.subset inSegment, fits⟩

/-- What is read was in the text. -/
theorem body_subset (text : List Char) : (body text).1 ⊆ text := by
  have trimmed : trim text ⊆ text := by
    intro c member
    have inLeft := List.mem_reverse.mp
      ((List.dropWhile_sublist isBlank).subset (List.mem_reverse.mp member))
    exact (List.dropWhile_sublist isBlank).subset inLeft
  unfold body
  dsimp only
  split
  next rest isSign =>
    rw [isSign] at trimmed
    exact fun c member => trimmed (List.mem_cons_of_mem _ member)
  next =>
    exact trimmed

/-- Every reference of a formula can be written, and its sheet name is plain
unless the formula has quotes. -/
theorem fits_of_parse
    {text : String}
    {e : Expression}
    (parsed : parse text = .ok e) :
    ∀ r ∈ e.allReferences, Fits text.toList r := by
  obtain ⟨-, -, tokens, place, left, wanted, count, scanned, -, derives, -⟩ :=
    accepts_of_parse traced_language (accepted_of_parse parsed)
  have aligned :=
    derives.aligned (P := Refers) (fun token => ⟨token, rfl, rfl, rfl⟩)
    fun rule _ _ _ _ aligned built => Refers.build aligned built
  have lexemes : ∀ token ∈ tokens, IsLexeme token :=
    scanned.forall_mem fun stands => by
      obtain ⟨length, found, text⟩ := stands.lexeme
      exact ⟨_, length, found, text⟩
  intro r member
  obtain ⟨token, isToken, fits⟩ := aligned.single lexemes r member
  refine ⟨fits.writable,
    fun name named => (fits.sheet name named).imp_right fun quote => ?_⟩
  exact body_subset _ (scanned.text_subset token isToken quote)

/-! ## Normal forms -/

namespace Reference

/-- The characters of the addresses of a reference. -/
def addresses : Reference → List Char
  | cell _ address => address.toList
  | range _ start finish => start.toList ++ ':' :: finish.toList

variable {r s : Reference} {name : String}

theorem toList_text (r : Reference) :
    r.text.toList = (sheetPart r.sheet?).toList ++ r.addresses := by
  cases r with
  | cell sheet address =>
      simp [text, sheet?, addresses]
  | range sheet start finish =>
      simp [text, sheet?, addresses]

theorem nameChar_or_colon
    (writable : IsWritableReference r) :
    ∀ c ∈ r.addresses, isNameChar c = true ∨ c = ':' := by
  cases r with
  | cell sheet address =>
      exact fun c member => .inl (writable.2.nameChar member)
  | range sheet start finish =>
      obtain ⟨-, isStart, isFinish⟩ := writable
      exact List.forall_mem_append.mpr
          ⟨fun c member => .inl (isStart.nameChar member),
        List.forall_mem_cons.mpr ⟨.inr rfl,
          fun c member => .inl (isFinish.nameChar member)⟩⟩

theorem isSheetName
    (writable : IsWritableReference r)
    (named : r.sheet? = some name) :
    IsSheetName name := by
  cases r with
  | cell sheet address => exact writable.1 name named
  | range sheet start finish => exact writable.1 name named

/-- A reference with its sheet name and its addresses told apart. -/
def splitText (cs : List Char) : Option String × List Char :=
  match cs with
  | '\'' :: rest =>
      match cut? ['\''] rest with
      | some (name, rest) => (some (String.ofList name), rest.drop 1)
      | none => (none, cs)
  | cs =>
      match cut? ['!'] cs with
      | some (name, rest) => (some (String.ofList name), rest)
      | none => (none, cs)

/-- The reference with a normal form. -/
def ofText (text : String) : Reference :=
  let (sheet, addresses) := splitText text.toList
  match cut? [':'] addresses with
  | some (start, finish) =>
      .range sheet (String.ofList start) (String.ofList finish)
  | none => .cell sheet (String.ofList addresses)

theorem splitText_plain
    {cs : List Char}
    (noQuote : ∀ c ∈ cs.head?, c ≠ '\'') :
    splitText cs =
      match cut? ['!'] cs with
      | some (name, rest) => (some (String.ofList name), rest)
      | none => (none, cs) := by
  unfold splitText
  split
  next rest =>
    exact absurd rfl (noQuote '\'' rfl)
  next =>
    rfl

/-- The characters of a name that stands without quotes. -/
theorem word_of_isPlainName
    (plain : isPlainName name = true) :
    ∀ c ∈ name.toList, isWord c = true := by
  unfold isPlainName at plain
  split at plain
  next =>
    cases plain
  next c rest chars =>
    rw [chars]
    exact List.all_eq_true.mp (Bool.and_eq_true_iff.mp plain).1

theorem splitText_text
    (writable : IsWritableReference r) :
    splitText r.text.toList = (r.sheet?, r.addresses) := by
  rw [toList_text]
  cases named : r.sheet? with
  | none =>
      have absent (c : Char) (other : isNameChar c = false ∧ c ≠ ':') :
          c ∉ r.addresses := by
        intro member
        rcases nameChar_or_colon writable c member with isChar | isColon
        · cases other.1.symm.trans isChar
        · exact other.2 isColon
      have noQuote : ∀ c ∈ r.addresses.head?, c ≠ '\'' := by
        rintro c isFirst rfl
        exact absent '\'' (by decide) (List.mem_of_mem_head? isFirst)
      show splitText r.addresses = _
      rw [splitText_plain noQuote, cut?_eq_none (absent '!' (by decide))]
  | some name =>
      have isSheet := isSheetName writable named
      unfold sheetPart
      dsimp only
      split
      next plain =>
        have chars := word_of_isPlainName plain
        have noQuote :
            ∀ c ∈ (name.toList ++ '!' :: r.addresses).head?, c ≠ '\'' := by
          rintro c isFirst rfl
          rw [List.head?_append_of_ne_nil _ isSheet.nonempty] at isFirst
          cases chars _ (List.mem_of_mem_head? isFirst)
        have noMark : '!' ∉ name.toList := fun member => by
          cases chars _ member
        rw [String.toList_append, List.append_assoc]
        show splitText (name.toList ++ '!' :: r.addresses) = _
        rw [splitText_plain noQuote, cut?_append noMark]
        simp
      next =>
        have quoted : ("'" ++ name ++ "'!").toList ++ r.addresses =
            '\'' :: (name.toList ++ '\'' :: '!' :: r.addresses) := by
          simp
        rw [quoted, splitText, cut?_append isSheet.noQuote]
        simp

/-- The normal form is what the reference was made of. -/
theorem ofText_text
    (writable : IsWritableReference r) :
    ofText r.text = r := by
  unfold ofText
  rw [splitText_text writable]
  cases r with
  | cell sheet address =>
      have noColon : ':' ∉ address.toList := fun member => by
        cases writable.2.nameChar member
      simp [addresses, sheet?, cut?_eq_none noColon]
  | range sheet start finish =>
      have noColon : ':' ∉ start.toList := fun member => by
        cases writable.2.1.nameChar member
      simp [addresses, sheet?, cut?_append noColon]

/-- References with the same normal form are the same. -/
theorem text_injective
    (writable : IsWritableReference r)
    (otherWritable : IsWritableReference s)
    (same : r.text = s.text) :
    r = s := by
  rw [← ofText_text writable, same, ofText_text otherWritable]

/-- The sheet name of the reference stands in quotes in its normal form if it
needs them in formulas. -/
def QuotedAsNeeded (r : Reference) : Prop :=
  ∀ name, r.sheet? = some name → isPlainName name = true → isPlainSheet name = true

/-- Quotes stand around the same sheet names as in normal forms. -/
def normalStyle : Style where
  gap := []
  isGap := nofun
  quotes name := !isPlainName name

theorem text_eq_referenceText
    (quoted : r.QuotedAsNeeded) :
    r.text = String.ofList (normalStyle.referenceText r) := by
  have sheet :
      (sheetPart r.sheet?).toList = normalStyle.qualifierText r.sheet? := by
    cases named : r.sheet? with
    | none =>
        rfl
    | some name =>
        have needed := quoted name named
        unfold sheetPart Style.qualifierText Style.sheetText normalStyle
        cases plain : isPlainName name with
        | true =>
            simp [plain, needed plain]
        | false =>
            simp [plain]
  have written : normalStyle.referenceText r =
      normalStyle.qualifierText r.sheet? ++ r.addresses := by
    cases r <;> rfl
  rw [written, ← sheet, ← toList_text, String.ofList_toList]

/-- Without quotes in its normal form, a reference is read as itself only if its
sheet name needs none. -/
theorem quotedAsNeeded_of_parse
    (writable : IsWritableReference r)
    (parsed : parse r.text = .ok (.reference r)) :
    r.QuotedAsNeeded := by
  intro name named plain
  refine ((fits_of_parse parsed r (List.mem_singleton_self r)).sheet name
    named).resolve_right ?_
  have unquoted : r.text.toList = name.toList ++ '!' :: r.addresses := by
    rw [toList_text, named, sheetPart, if_pos plain]
    simp
  rw [unquoted, List.mem_append, List.mem_cons]
  rintro (inName | isMark | inAddresses)
  · cases word_of_isPlainName plain _ inName
  · cases isMark
  · rcases nameChar_or_colon writable _ inAddresses with isChar | isColon
    · cases isChar
    · cases isColon

/-- The normal form of a reference is a formula for it exactly if it has the
quotes that it needs. -/
theorem parse_text_iff
    (writable : IsWritableReference r) :
    parse r.text = .ok (.reference r) ↔ r.QuotedAsNeeded := by
  refine ⟨quotedAsNeeded_of_parse writable, fun quoted => ?_⟩
  rw [text_eq_referenceText quoted]
  exact
    parse_of_reads ((reads_reference normalStyle writable).weaken (Nat.zero_le 8)
    (Nat.le_refl 8)) false

end Reference

/--
The entries of a formula tell its references apart, and each is a formula for
its reference exactly if the sheet name has the quotes that it needs.
-/
theorem reference_texts
    {text : String}
    {e : Expression}
    (parsed : parse text = .ok e) :
    (∀ r ∈ e.allReferences, parse r.text = .ok (.reference r) ↔ r.QuotedAsNeeded) ∧
    (∀ entry ∈ e.references, ∃ r ∈ e.allReferences, r.text = entry) ∧
    (∀ r ∈ e.allReferences, ∀ s ∈ e.allReferences, r.text = s.text → r = s) := by
  have writable : ∀ r ∈ e.allReferences, IsWritableReference r := fun r member =>
    (fits_of_parse parsed r member).writable
  refine ⟨fun r member => Reference.parse_text_iff (writable r member),
      fun entry listed => ?_,
    fun r member s otherMember =>
      Reference.text_injective (writable r member) (writable s otherMember)⟩
  exact List.mem_map.mp (List.mem_eraseDups.mp listed)

/-- A sheet name with a blank keeps its quotes. -/
theorem reference_texts_budget :
    parse "=SUM('My Sheet'!$A$1:B2, Data!C3)" =
        .ok (.call "SUM" [.reference (.range (some "My Sheet") "A1" "B2"),
          .reference (.cell (some "Data") "C3")]) ∧
      parse "'My Sheet'!A1:B2" =
        .ok (.reference (.range (some "My Sheet") "A1" "B2")) := by
  have parsed : parse "=SUM('My Sheet'!$A$1:B2, Data!C3)" =
      .ok (.call "SUM" [.reference (.range (some "My Sheet") "A1" "B2"),
        .reference (.cell (some "Data") "C3")]) := rfl
  refine ⟨parsed,
    ((reference_texts parsed).1 _ List.mem_cons_self).mpr fun name named => ?_⟩
  cases named
  decide

/-- A letter that no plain sheet name has needs quotes and gets none. -/
theorem umlaut_loses_quotes :
    parse "='Übersicht'!A1" = .ok (.reference (.cell (some "Übersicht") "A1")) ∧
      (Reference.cell (some "Übersicht") "A1").text = "Übersicht!A1" ∧
      parse "Übersicht!A1" = fail ⟨.character 'Ü' ⟨1, 1, 0⟩, 0⟩ :=
  ⟨rfl, rfl, rfl⟩

end GridScript.Formula
