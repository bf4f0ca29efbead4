import UefiTyping.Json.Printer
import UefiTyping.Proofs.Json.Escape
import UefiTyping.Proofs.Json.Numeral

/-!
# Documents read back

Reading the indented text of a document gives the document, for every document whose scalars
are written as the format has them. The way goes over the tokens of a document: scanning the
text gives them, whatever the layout, and the reader puts the document together from them.
-/
namespace UefiTyping.Json

/-- Scalars and keys are written as the format has them. -/
inductive WellSpelled : Json → Prop
  | null : WellSpelled .null
  | bool (value : Bool) : WellSpelled (.bool value)
  | number {written : List Char} : isNumeral written = true → WellSpelled (.number written)
  | string {written : List Char} : IsSpelled written → WellSpelled (.string written)
  | array {items : List Json} : (∀ item ∈ items, WellSpelled item) → WellSpelled (.array items)
  | object {members : List (List Char × Json)} : (∀ member ∈ members, IsSpelled member.1) →
      (∀ member ∈ members, WellSpelled member.2) → WellSpelled (.object members)

/-! ## Tokens -/

mutual

/-- The tokens of a document. -/
def tokens : Json → List Token
  | .null => [.word ['n', 'u', 'l', 'l']]
  | .bool value => [.word (boolName value)]
  | .number written => [.word written]
  | .string written => [.string written]
  | .array [] => [.openArray, .closeArray]
  | .array (item :: items) => .openArray :: (item.tokens ++ tokensOfItems items)
  | .object [] => [.openObject, .closeObject]
  | .object ((key, value) :: members) =>
    .openObject :: .string key :: .colon :: (value.tokens ++ tokensOfMembers members)

/-- The tokens of the rest of an array after its first item. -/
def tokensOfItems : List Json → List Token
  | [] => [.closeArray]
  | item :: items => .comma :: (item.tokens ++ tokensOfItems items)

/-- The tokens of the rest of an object after its first member. -/
def tokensOfMembers : List (List Char × Json) → List Token
  | [] => [.closeObject]
  | (key, value) :: members =>
    .comma :: .string key :: .colon :: (value.tokens ++ tokensOfMembers members)

end

/-! ## From text to tokens -/

/-- What scanning the rest of a text comes to. -/
def scanFrom (state : Scanner.State) (text : List Char) : Option (List Token) :=
  text.foldlM Scanner.step state >>= Scanner.finish

/-- The text is empty, or its first character ends the word before it. -/
def Delimited (text : List Char) : Prop := ∀ c ∈ text.head?, Scanner.endsWord c = true

section Scanning
variable {read : List Char} {done : List Token}

theorem scanFrom_append {state next : Scanner.State} {first : List Char}
    (h : first.foldlM Scanner.step state = some next) (text : List Char) :
    scanFrom state (first ++ text) = scanFrom next text := by
  rw [scanFrom, List.foldlM_append, h]
  rfl

theorem scanFrom_cons {state next : Scanner.State} {c : Char}
    (h : Scanner.step state c = some next) (text : List Char) :
    scanFrom state (c :: text) = scanFrom next text := by
  rw [scanFrom, List.foldlM_cons, h]
  rfl

theorem scanFrom_newline (level : Nat) (text : List Char) :
    scanFrom (.between, done) (newline level ++ text) = scanFrom (.between, done) text := by
  have hblanks : ∀ n, scanFrom (.between, done) (List.replicate n ' ' ++ text) =
      scanFrom (.between, done) text := by
    intro n
    induction n with
    | zero => rfl
    | succ n ih =>
      rw [List.replicate_succ, List.cons_append, scanFrom_cons rfl]
      exact ih
  rw [newline, List.cons_append, scanFrom_cons rfl]
  exact hblanks (2 * level)

theorem scanFrom_quoted {written : List Char} (h : IsSpelled written) (text : List Char) :
    scanFrom (.between, done) (quoted written ++ text) =
      scanFrom (.between, .string written :: done) text := by
  have hclose : Scanner.step (.string (written.reverse ++ []), done) '"' =
      some (.between, .string written :: done) := by
    simp [Scanner.step]
  have hopen : Scanner.step (.between, done) '"' = some (.string [], done) := rfl
  rw [quoted, List.cons_append, List.append_assoc, scanFrom_cons hopen, scanFrom_append (h [] done),
    List.singleton_append, scanFrom_cons hclose]

/-- What follows a word ends it. -/
theorem scanFrom_word_end {text : List Char} (h : Delimited text) :
    scanFrom (.word read, done) text = scanFrom (.between, .word read.reverse :: done) text := by
  cases text with
  | nil => rfl
  | cons c text =>
    have hends : Scanner.endsWord c = true := h c rfl
    have hstep : Scanner.step (.word read, done) c =
        Scanner.step (.between, .word read.reverse :: done) c := by
      simp only [Scanner.step, hends, if_true]
    rw [scanFrom, List.foldlM_cons, hstep]
    rfl

theorem foldlM_step_word {word : List Char} (h : ∀ c ∈ word, Scanner.endsWord c = false) :
    word.foldlM Scanner.step (.word read, done) = some (.word (word.reverse ++ read), done) := by
  induction word generalizing read with
  | nil => rfl
  | cons c word ih =>
    have hc : Scanner.step (.word read, done) c = some (.word (c :: read), done) := by
      simp only [Scanner.step, h c (by simp), Bool.false_eq_true, if_false]
    rw [List.foldlM_cons, hc]
    show word.foldlM Scanner.step (.word (c :: read), done) = _
    rw [ih fun c hc => h c (by simp [hc])]
    simp

theorem scanFrom_word {word text : List Char} (hne : word ≠ [])
    (h : ∀ c ∈ word, Scanner.endsWord c = false) (htext : Delimited text) :
    scanFrom (.between, done) (word ++ text) = scanFrom (.between, .word word :: done) text := by
  obtain ⟨c, word, rfl⟩ := List.exists_cons_of_ne_nil hne
  have hc := h c (by simp)
  simp only [Scanner.endsWord, Bool.or_eq_false_iff, beq_eq_false_iff_ne] at hc
  obtain ⟨⟨hspace, hquote⟩, hmark⟩ := hc
  have hstart : Scanner.step (.between, done) c = some (.word [c], done) := by
    have hmark : Token.ofMark? c = none := Option.not_isSome_iff_eq_none.1 (by simp [hmark])
    simp [Scanner.step, Scanner.start, hspace, hquote, hmark]
  rw [List.cons_append, scanFrom_cons hstart,
    scanFrom_append (foldlM_step_word fun c hc => h c (by simp [hc])), scanFrom_word_end htext]
  simp

/-- Scanning a document in its indented text gives its tokens. -/
def Scans (document : Json) : Prop :=
  ∀ level done text, Delimited text →
    scanFrom (.between, done) (document.indentedAt level ++ text) =
      scanFrom (.between, document.tokens.reverse ++ done) text

theorem delimited_indentedItems (level : Nat) (items : List Json) (text : List Char) :
    Delimited (indentedItems level items ++ text) := by
  cases items with
  | nil => exact fun c hc => by cases hc; rfl
  | cons item items => exact fun c hc => by cases hc; rfl

theorem delimited_indentedMembers (level : Nat) (members : List (List Char × Json))
    (text : List Char) : Delimited (indentedMembers level members ++ text) := by
  cases members with
  | nil => exact fun c hc => by cases hc; rfl
  | cons member members => exact fun c hc => by cases hc; rfl

theorem scanFrom_indentedItems {items : List Json} (h : ∀ item ∈ items, item.Scans) (level : Nat)
    (done : List Token) (text : List Char) :
    scanFrom (.between, done) (indentedItems level items ++ text) =
      scanFrom (.between, (tokensOfItems items).reverse ++ done) text := by
  induction items generalizing done with
  | nil =>
    rw [indentedItems, List.append_assoc, scanFrom_newline, List.singleton_append,
      scanFrom_cons rfl]
    rfl
  | cons item items ih =>
    rw [indentedItems, List.cons_append, scanFrom_cons rfl, List.append_assoc, List.append_assoc]
    show scanFrom (.between, .comma :: done) _ = _
    rw [scanFrom_newline, h item (by simp) _ _ _ (delimited_indentedItems level items text),
      ih fun item hitem => h item (by simp [hitem])]
    simp [tokensOfItems]

theorem scanFrom_indentedMembers {members : List (List Char × Json)}
    (hkeys : ∀ member ∈ members, IsSpelled member.1) (h : ∀ member ∈ members, member.2.Scans)
    (level : Nat) (done : List Token) (text : List Char) :
    scanFrom (.between, done) (indentedMembers level members ++ text) =
      scanFrom (.between, (tokensOfMembers members).reverse ++ done) text := by
  induction members generalizing done with
  | nil =>
    rw [indentedMembers, List.append_assoc, scanFrom_newline, List.singleton_append,
      scanFrom_cons rfl]
    rfl
  | cons member members ih =>
    obtain ⟨key, value⟩ := member
    rw [indentedMembers, List.cons_append, scanFrom_cons rfl]
    simp only [List.append_assoc, List.cons_append, List.nil_append]
    show scanFrom (.between, .comma :: done) _ = _
    rw [scanFrom_newline, scanFrom_quoted (hkeys (key, value) (by simp)), scanFrom_cons rfl,
      scanFrom_cons rfl]
    show scanFrom (.between, .colon :: .string key :: .comma :: done) _ = _
    rw [h (key, value) (by simp) _ _ _ (delimited_indentedMembers level members text),
      ih (fun member hmember => hkeys member (by simp [hmember]))
        (fun member hmember => h member (by simp [hmember]))]
    simp [tokensOfMembers]

theorem WellSpelled.scans {document : Json} (h : document.WellSpelled) : document.Scans := by
  induction h with
  | null =>
    have hword : ∀ c ∈ ['n', 'u', 'l', 'l'], Scanner.endsWord c = false := by
      simp [Scanner.endsWord, isSpace, Token.ofMark?]
    exact fun level done text => scanFrom_word (List.cons_ne_nil _ _) hword
  | bool value =>
    have hne : boolName value ≠ [] := by
      cases value <;> decide
    have hword : ∀ c ∈ boolName value, Scanner.endsWord c = false := by
      cases value <;> simp [boolName, Scanner.endsWord, isSpace, Token.ofMark?]
    exact fun level done text => scanFrom_word hne hword
  | @number written hnumeral =>
    intro level done text
    have hne : written ≠ [] := by
      rintro rfl
      exact absurd hnumeral (by decide)
    exact scanFrom_word hne fun c hc => endsWord_of_mem_numeral hnumeral hc
  | string hspelled => exact fun level done text _ => scanFrom_quoted hspelled text
  | @array items _ ih =>
    intro level done text _
    cases items with
    | nil =>
      show scanFrom (.between, done) ('[' :: ']' :: text) = _
      rw [scanFrom_cons rfl, scanFrom_cons rfl]
      rfl
    | cons item items =>
      simp only [indentedAt, List.cons_append, List.append_assoc]
      rw [scanFrom_cons rfl]
      show scanFrom (.between, .openArray :: done) _ = _
      rw [scanFrom_newline, ih item (by simp) _ _ _ (delimited_indentedItems level items text),
        scanFrom_indentedItems fun item hitem => ih item (by simp [hitem])]
      simp [tokens]
  | @object members hkeys _ ih =>
    intro level done text _
    cases members with
    | nil =>
      show scanFrom (.between, done) ('{' :: '}' :: text) = _
      rw [scanFrom_cons rfl, scanFrom_cons rfl]
      rfl
    | cons member members =>
      obtain ⟨key, value⟩ := member
      simp only [indentedAt, List.cons_append, List.append_assoc, List.nil_append]
      rw [scanFrom_cons rfl]
      show scanFrom (.between, .openObject :: done) _ = _
      rw [scanFrom_newline, scanFrom_quoted (hkeys (key, value) (by simp)), scanFrom_cons rfl,
        scanFrom_cons rfl]
      show scanFrom (.between, .colon :: .string key :: .openObject :: done) _ = _
      rw [ih (key, value) (by simp) _ _ _ (delimited_indentedMembers level members text),
        scanFrom_indentedMembers (fun member hmember => hkeys member (by simp [hmember]))
          fun member hmember => ih member (by simp [hmember])]
      simp [tokens]

/-- The tokens of a document are those of its indented text. -/
theorem scan_indented {document : Json} (h : document.WellSpelled) :
    scan document.indented.toList = some document.tokens := by
  have hscan := h.scans 0 [] [] (fun c hc => by cases hc)
  rw [List.append_nil, List.append_nil] at hscan
  rw [indented, String.toList_ofList]
  exact hscan.trans (congrArg some (List.reverse_reverse _))

end Scanning

/-! ## From tokens to documents -/

/-- What reading the rest of some tokens comes to. -/
def readFrom (state : Reader.State) (tokens : List Token) : Option Json :=
  tokens.foldlM Reader.step state >>= Reader.finish

section Reading
variable {stack : List Reader.Frame}

theorem readFrom_cons {state next : Reader.State} {token : Token}
    (h : Reader.step state token = some next) (tokens : List Token) :
    readFrom state (token :: tokens) = readFrom next tokens := by
  rw [readFrom, List.foldlM_cons, h]
  rfl

/-- Reading a document from its tokens completes it. -/
def ReadsBack (document : Json) : Prop :=
  ∀ stack tokens, readFrom (.value stack) (document.tokens ++ tokens) =
    readFrom (.complete document stack) tokens

/-- The first item of an array is read like any other. -/
theorem readFrom_firstItem (document : Json) (stack : List Reader.Frame) (tokens : List Token) :
    readFrom (.firstItem stack) (document.tokens ++ tokens) =
      readFrom (.value (.array [] :: stack)) (document.tokens ++ tokens) := by
  cases document with
  | null | bool | number | string => rfl
  | array items => cases items <;> rfl
  | object members => cases members <;> rfl

theorem readFrom_tokensOfItems {items : List Json} (h : ∀ item ∈ items, item.ReadsBack)
    (value : Json) (before : List Json) (stack : List Reader.Frame) (tokens : List Token) :
    readFrom (.complete value (.array before :: stack)) (tokensOfItems items ++ tokens) =
      readFrom (.complete (.array ((value :: before).reverse ++ items)) stack) tokens := by
  induction items generalizing value before with
  | nil =>
    rw [tokensOfItems, List.singleton_append, readFrom_cons rfl, List.append_nil]
  | cons item items ih =>
    rw [tokensOfItems, List.cons_append, readFrom_cons rfl, List.append_assoc,
      h item (by simp), ih fun item hitem => h item (by simp [hitem])]
    simp

theorem readFrom_tokensOfMembers {members : List (List Char × Json)}
    (h : ∀ member ∈ members, member.2.ReadsBack) (key : List Char) (value : Json)
    (before : List (List Char × Json)) (stack : List Reader.Frame) (tokens : List Token) :
    readFrom (.complete value (.object before key :: stack)) (tokensOfMembers members ++ tokens) =
      readFrom (.complete (.object (((key, value) :: before).reverse ++ members)) stack)
        tokens := by
  induction members generalizing key value before with
  | nil =>
    rw [tokensOfMembers, List.singleton_append, readFrom_cons rfl, List.append_nil]
  | cons member members ih =>
    obtain ⟨key', value'⟩ := member
    simp only [tokensOfMembers, List.cons_append, List.append_assoc]
    rw [readFrom_cons rfl, readFrom_cons rfl, readFrom_cons rfl, h (key', value') (by simp),
      ih fun member hmember => h member (by simp [hmember])]
    simp

theorem WellSpelled.readsBack {document : Json} (h : document.WellSpelled) :
    document.ReadsBack := by
  induction h with
  | null => exact fun stack tokens => readFrom_cons rfl tokens
  | bool value =>
    intro stack tokens
    cases value with
    | true => exact readFrom_cons rfl tokens
    | false => exact readFrom_cons rfl tokens
  | number hnumeral =>
    intro stack tokens
    refine readFrom_cons ?_ tokens
    simp [Reader.step, Reader.startValue, ofWord?_of_isNumeral hnumeral]
  | string hspelled => exact fun stack tokens => readFrom_cons rfl tokens
  | @array items _ ih =>
    intro stack tokens
    cases items with
    | nil =>
      show readFrom (.value stack) (.openArray :: .closeArray :: tokens) = _
      rw [readFrom_cons rfl, readFrom_cons rfl]
    | cons item items =>
      simp only [Json.tokens, List.cons_append, List.append_assoc]
      rw [readFrom_cons rfl]
      show readFrom (.firstItem stack) _ = _
      rw [readFrom_firstItem, ih item (by simp),
        readFrom_tokensOfItems fun item hitem => ih item (by simp [hitem])]
      simp
  | @object members _ _ ih =>
    intro stack tokens
    cases members with
    | nil =>
      show readFrom (.value stack) (.openObject :: .closeObject :: tokens) = _
      rw [readFrom_cons rfl, readFrom_cons rfl]
    | cons member members =>
      obtain ⟨key, value⟩ := member
      simp only [Json.tokens, List.cons_append, List.append_assoc]
      rw [readFrom_cons rfl, readFrom_cons rfl, readFrom_cons rfl, ih (key, value) (by simp),
        readFrom_tokensOfMembers fun member hmember => ih member (by simp [hmember])]
      simp

/-- A document is put together again from its tokens. -/
theorem ofTokens?_tokens {document : Json} (h : document.WellSpelled) :
    ofTokens? document.tokens = some document := by
  have hread := h.readsBack [] []
  rw [List.append_nil] at hread
  exact hread

end Reading

/-- A document is read back from its indented text. -/
theorem parse?_indented {document : Json} (h : document.WellSpelled) :
    parse? document.indented = some document := by
  rw [parse?, scan_indented h]
  exact ofTokens?_tokens h

end UefiTyping.Json
