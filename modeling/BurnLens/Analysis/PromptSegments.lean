import BurnLens.Library.Numeral
import BurnLens.Library.Regex
import BurnLens.Providers.ToolCalls
import Mathlib.Data.List.MinMax
import Mathlib.Tactic.Linarith

/-! # The segments of a prompt

`analyze_request_prompt` splits the body of a request into five texts, counts their tokens, and
scales the counts to the input that is billed.  Each share is rounded on its own, so their sum can be
off by two: the difference goes to the largest segment, and what is left of it to the user's.
-/

namespace BurnLens.Analysis

open Library Providers

/-! ## Retrieved documents -/

def anyChar : Char → Bool := fun _ => true

/-- `<(doc|document|…)[^>]*>(.*?)</\1>`. -/
def ragXmlPattern : Regex :=
  .concat [.literal '<',
    .group 1 (.oneOf ((["doc", "document", "context", "source", "wikipedia", "retrieved", "docs"] :
      List Str).map Regex.word)),
    .many (· ≠ '>') false, .literal '>', .group 2 (.many anyChar true), .text "</",
    .again 1 Regex.foldLetter, .literal '>']

/-- `(?:^|\n)(?:Context|Source|…):\s*\n*(.*?)(?=\n\n|\n[A-Z][a-zA-Z\s]+:|$)`. -/
def ragHeaderPattern : Regex :=
  .concat [.oneOf [.start, .literal '\n'],
    .oneOf [.word "context", .word "source", .word "reference",
      .concat [.word "search", .many1 isSpace, .word "results"],
      .concat [.word "retrieved", .many1 isSpace, .word "documents"],
      .concat [.word "background", .many1 isSpace, .word "info"],
      .concat [.word "context", .many1 isSpace, .word "documents"]],
    .literal ':', .many isSpace false, .many (· = '\n') false, .group 1 (.many anyChar true),
    .ahead (.oneOf [.text "\n\n",
      .concat [.literal '\n', .char Regex.isLetter, .many1 fun c => Regex.isLetter c || isSpace c,
        .literal ':'],
      .stop])]

/-- `(?:^|\n)(?:---|===)\s*\n*(.*?)\n*(?:---|===|$)`. -/
def ragDividerPattern : Regex :=
  .concat [.oneOf [.start, .literal '\n'], .oneOf [.text "---", .text "==="], .many isSpace false,
    .many (· = '\n') false, .group 1 (.many anyChar true), .many (· = '\n') false,
    .oneOf [.text "---", .text "===", .stop]]

/-- One loop over the matches of a pattern, from the last: a block that is taken leaves the text. -/
def takeOut (pattern : Regex) (group : Nat) (taken : Str → Bool) (found : List Str × Str) :
    List Str × Str :=
  (pattern.finditer found.2).reverse.foldl
    (fun found m =>
      let block := strip (m.group group)
      if taken block then (found.1 ++ [block], found.2.take m.start ++ found.2.drop m.stop)
      else found)
    found

/-- The remaining text, and the text of the blocks. -/
def extractRagContent (text : Str) : Str × Str :=
  if text = [] then ([], []) else
    let found := takeOut ragXmlPattern 2 (fun _ => true) ([], text)
    let found := takeOut ragHeaderPattern 1 (fun _ => true) found
    let found := takeOut ragDividerPattern 1 (fun block => 150 < block.length) found
    (strip found.2, strip (("\n\n" : Str).intercalate found.1))

/-! ## Texts -/

structure PromptReader where
  loads : List UInt8 → Option Json
  dumps : Json → Option Str
  str : Json → Str

/-- `"".join(part.get("text", "") for part in parts if isinstance(part, dict))`. -/
def joinTexts (parts : List Json) : Except PyError Str := do
  let texts ← parts.mapM fun
    | .obj part =>
      match Fields.getD part "text" (.str []) with
      | .str text => .ok text
      | _ => .error .typeError
    | _ => .ok []
  return texts.flatten

/-- The text of a string or of a list of parts. -/
def contentText : Json → Except PyError (Option Str)
  | .str text => .ok (some text)
  | .arr parts => do return some (← joinTexts parts)
  | _ => .ok none

def contentOf (turn : Fields) : Except PyError (Option Str) :=
  contentText (turn.getD "content" (.str []))

def PromptReader.parseMessages (reader : PromptReader) (messages : List Fields) :
    Except PyError (Str × Str) := do
  let chatTurns := messages.filter fun m => !(fieldOf m "role").isText "system"
  match chatTurns.getLast? with
  | none => return ([], [])
  | some queryTurn =>
    let query ← contentOf queryTurn
    let blocks ← chatTurns.dropLast.mapM fun turn => do
      let role := turn.getD "role" (.str "user")
      return (← contentOf turn).map fun text => reader.str role ++ ": " ++ text
    return (("\n\n" : Str).intercalate blocks.reduceOption, query.getD [])

def parseSystemInstruction : Json → Except PyError Str
  | .str text => .ok text
  | .obj instruction =>
    match (fieldOf instruction "parts").orElse (.arr []) with
    | .arr parts => joinTexts parts
    | _ => .ok []
  | _ => .ok []

/-- The texts that `+=` appends, each after a line break. -/
def onLines (texts : List Str) : Str := (texts.map (("\n" : Str) ++ ·)).flatten

/-- The top-level `system` of a body. -/
def systemBlocks : Json → Except PyError (List Str)
  | .str [] => .ok []
  | .str text => .ok [text]
  | .arr blocks => do
    let texts ← blocks.mapM fun
      | .obj block =>
        if (fieldOf block "type").isText "text" then
          match Fields.getD block "text" (.str []) with
          | .str text => .ok (some text)
          | _ => .error .typeError
        else .ok none
      | _ => .ok none
    return texts.reduceOption
  | _ => .ok []

def systemText (body : Fields) (messages : List Fields) : Except PyError Str := do
  let contents ← (messages.filter fun m => (fieldOf m "role").isText "system").mapM contentOf
  let blocks ← systemBlocks (fieldOf body "system")
  let google := fieldOf body "systemInstruction"
  let instruction ← if google.truthy then do pure [← parseSystemInstruction google] else pure []
  return strip (onLines (contents.reduceOption ++ blocks ++ instruction))

def PromptReader.toolsText (reader : PromptReader) (body : Fields) : Str :=
  let tools := (fieldOf body "tools").orElse (fieldOf body "functions")
  if tools.truthy then (reader.dumps tools).getD [] else []

/-- A turn of `contents` as a message. -/
def standardizedTurn (turn : Json) : Except PyError Fields := do
  let fields ← turn.dict
  let parts ← iterate ((fieldOf fields "parts").orElse (.arr []))
  return [("role", fields.getD "role" (.str "user")), ("content", .str (← joinTexts parts))]

def PromptReader.chatTexts (reader : PromptReader) (body : Fields) (messages : List Fields) :
    Except PyError (Str × Str) := do
  let contents := fieldOf body "contents"
  if contents.truthy then
    reader.parseMessages (← (← iterate contents).mapM standardizedTurn)
  else reader.parseMessages messages

/-! ## Segments -/

inductive Segment where
  | system
  | tools
  | history
  | rag
  | user
deriving DecidableEq

/-- In the order of the dictionary `scaled`. -/
def Segment.all : List Segment := [.system, .tools, .history, .rag, .user]

abbrev SegmentTokens := Segment → Int

def SegmentTokens.sum (tokens : SegmentTokens) : Int := (Segment.all.map tokens).sum

def SegmentTokens.allUser (inputTokens : Nat) : SegmentTokens
  | .user => inputTokens
  | _ => 0

def PromptReader.promptTexts (reader : PromptReader) (body : Json) : Except PyError (Segment → Str) := do
  let body ← body.dict
  let messages ← (← iterate ((fieldOf body "messages").orElse (.arr []))).mapM Json.dict
  let system ← systemText body messages
  let tools := reader.toolsText body
  let (history, query) ← reader.chatTexts body messages
  let (cleanSystem, systemRag) := extractRagContent system
  let (cleanQuery, queryRag) := extractRagContent query
  let rag := ("\n\n" : Str).intercalate ([systemRag, queryRag].filter fun text => !text.isEmpty)
  return fun
    | .system => cleanSystem
    | .tools => tools
    | .history => history
    | .rag => rag
    | .user => cleanQuery

/-- `max(scaled, key=...)`: the first of the largest. -/
def SegmentTokens.largestKey (scaled : SegmentTokens) : Segment :=
  (@List.argmax _ _ Int.instLinearOrder.toPreorder _ scaled Segment.all).getD .system

/-- `scaled[key] = max(0, scaled[key] + diff)`. -/
def SegmentTokens.adjust (scaled : SegmentTokens) (key : Segment) (diff : Int) : SegmentTokens :=
  Function.update scaled key (max 0 (scaled key + diff))

/-- The two corrections of a sum that is off. -/
def SegmentTokens.align (scaled : SegmentTokens) (inputTokens : Nat) : SegmentTokens :=
  let diff := inputTokens - scaled.sum
  if diff = 0 then scaled else
    let adjusted := scaled.adjust scaled.largestKey diff
    let diff := inputTokens - adjusted.sum
    if diff = 0 then adjusted else adjusted.adjust .user diff

def scaleTokens (raw : Segment → Nat) (inputTokens : Nat) : SegmentTokens :=
  let totalRaw := (Segment.all.map raw).sum
  if totalRaw = 0 then .allUser inputTokens else
    let scale : ℚ := inputTokens / totalRaw
    SegmentTokens.align (fun key => max 0 (roundHalfEven (raw key * scale))) inputTokens

/-- `count_tokens`, where `encode` is the encoding of the library that is there, if it is. -/
def countTokens (encode : Option (Str → Option Nat)) (text : Str) : Nat :=
  if text = [] then 0 else (encode.bind (· text)).getD (max 1 (text.length / 4))

def PromptReader.analyzeRequestPrompt (reader : PromptReader) (count : Str → Nat)
    (_provider _model : Str) (bodyBytes : List UInt8) (inputTokens : Nat) : Except PyError SegmentTokens :=
  if bodyBytes = [] then .ok (.allUser inputTokens) else
    match reader.loads bodyBytes with
    | none => .ok (.allUser inputTokens)
    | some body => do
      let texts ← reader.promptTexts body
      return scaleTokens (fun key => count (texts key)) inputTokens

/-! ## The sum -/

variable {scaled : SegmentTokens} {inputTokens : Nat}

theorem SegmentTokens.sum_eq (tokens : SegmentTokens) :
    tokens.sum = tokens .system + tokens .tools + tokens .history + tokens .rag + tokens .user := by
  simp only [sum, Segment.all, List.map_cons, List.map_nil, List.sum_cons, List.sum_nil]
  ring

theorem Segment.mem_all (key : Segment) : key ∈ Segment.all := by
  cases key <;> decide

theorem SegmentTokens.sum_adjust (scaled : SegmentTokens) (key : Segment) (diff : Int) :
    (scaled.adjust key diff).sum = scaled.sum - scaled key + max 0 (scaled key + diff) := by
  rw [sum_eq, sum_eq]
  cases key <;> simp [adjust, Function.update] <;> ring

theorem SegmentTokens.adjust_nonneg (nonneg : ∀ key, 0 ≤ scaled key) (key : Segment) (diff : Int)
    (other : Segment) : 0 ≤ scaled.adjust key diff other := by
  by_cases same : other = key
  · rw [same, adjust, Function.update_self]
    exact le_max_left _ _
  · rw [adjust, Function.update_of_ne same]
    exact nonneg other

theorem SegmentTokens.le_largest (scaled : SegmentTokens) (key : Segment) : scaled key ≤ scaled scaled.largestKey := by
  cases found : Segment.all.argmax scaled with
  | none => cases List.argmax_eq_none.mp found
  | some largest =>
    rw [largestKey, found]
    exact List.le_of_mem_argmax (Segment.mem_all key) found

/-- Where the sum is too large by two and the largest segment is one token, every segment is, and the
user's gives the second token. -/
theorem SegmentTokens.align_sum (nonneg : ∀ key, 0 ≤ scaled key) (close : scaled.sum ≤ inputTokens + 2)
    (ones : scaled.sum = inputTokens + 2 → (∀ key, scaled key ≤ 1) → ∀ key, scaled key = 1) :
    (∀ key, 0 ≤ scaled.align inputTokens key) ∧ (scaled.align inputTokens).sum = inputTokens := by
  have largest := fun key => le_largest scaled key
  by_cases exact : (inputTokens : Int) - scaled.sum = 0
  · rw [align, if_pos exact]
    exact ⟨nonneg, by omega⟩
  have adjusted := sum_adjust scaled scaled.largestKey (inputTokens - scaled.sum)
  by_cases enough : 0 ≤ scaled scaled.largestKey + (inputTokens - scaled.sum)
  · rw [max_eq_right enough] at adjusted
    have settled : (inputTokens : Int) -
        (scaled.adjust scaled.largestKey (inputTokens - scaled.sum)).sum = 0 := by omega
    simp only [align, if_neg exact, if_pos settled]
    exact ⟨adjust_nonneg nonneg _ _, by omega⟩
  · -- the largest segment is one token
    have sum := sum_eq scaled
    have largestOne : scaled scaled.largestKey ≤ 1 ∧ scaled.sum = inputTokens + 2 := by
      have := largest .system
      have := largest .tools
      have := largest .history
      have := largest .rag
      have := largest .user
      omega
    have all := ones largestOne.2 fun key => (largest key).trans largestOne.1
    have same : scaled = fun _ => 1 := funext all
    have three : inputTokens = 3 := by
      have total := largestOne.2
      rw [sum_eq, all, all, all, all, all] at total
      omega
    subst same three
    exact ⟨fun key => by cases key <;> decide, by decide⟩

/-! ## Rounded shares -/

section Shares

variable {shares : Segment → ℚ}

theorem rounded_sum_le (total : (Segment.all.map shares).sum = inputTokens) :
    SegmentTokens.sum (fun key => roundHalfEven (shares key)) ≤ inputTokens + 2 := by
  have near := fun key => (abs_le.mp (abs_roundHalfEven_sub_le (shares key))).2
  simp only [Segment.all, List.map_cons, List.map_nil, List.sum_cons, List.sum_nil] at total
  have below : ((SegmentTokens.sum fun key => roundHalfEven (shares key) : Int) : ℚ) < inputTokens + 3 := by
    rw [SegmentTokens.sum_eq]
    push_cast
    linarith [near .system, near .tools, near .history, near .rag, near .user]
  have whole : SegmentTokens.sum (fun key => roundHalfEven (shares key)) < inputTokens + 3 := by
    exact_mod_cast below
  omega

theorem rounded_ones (nonneg : ∀ key, 0 ≤ shares key)
    (total : (Segment.all.map shares).sum = inputTokens)
    (exceeds : SegmentTokens.sum (fun key => roundHalfEven (shares key)) = inputTokens + 2)
    (small : ∀ key, roundHalfEven (shares key) ≤ 1) (key : Segment) :
    roundHalfEven (shares key) = 1 := by
  have twice : ∀ other, (roundHalfEven (shares other) : ℚ) ≤ 2 * shares other := by
    intro other
    by_cases one : roundHalfEven (shares other) = 1
    · have half := half_lt_of_roundHalfEven (x := shares other) one.ge
      rw [one]
      push_cast
      linarith
    · have none : roundHalfEven (shares other) ≤ 0 := by have := small other; omega
      have bounded : (roundHalfEven (shares other) : ℚ) ≤ 0 := by exact_mod_cast none
      linarith [nonneg other]
  have less : ∃ other, (roundHalfEven (shares other) : ℚ) < 2 * shares other := by
    by_contra absent
    have zero : ∀ other, roundHalfEven (shares other) ≤ 0 := by
      intro other
      by_contra positive
      have half := half_lt_of_roundHalfEven (x := shares other) (by omega)
      have most : (roundHalfEven (shares other) : ℚ) ≤ 1 := by exact_mod_cast small other
      exact absent ⟨other, by linarith⟩
    rw [SegmentTokens.sum_eq] at exceeds
    have := zero .system
    have := zero .tools
    have := zero .history
    have := zero .rag
    have := zero .user
    omega
  have more : (inputTokens : ℚ) + 2 < 2 * inputTokens := by
    have sum : ((SegmentTokens.sum fun key => roundHalfEven (shares key) : Int) : ℚ) = inputTokens + 2 := by
      rw [exceeds]
      push_cast
      rfl
    rw [SegmentTokens.sum_eq] at sum
    simp only [Segment.all, List.map_cons, List.map_nil, List.sum_cons, List.sum_nil] at total
    push_cast at sum
    obtain ⟨other, less⟩ := less
    cases other <;>
      linarith [twice .system, twice .tools, twice .history, twice .rag, twice .user]
  have three : 3 ≤ inputTokens := by
    have : inputTokens + 2 < 2 * inputTokens := by exact_mod_cast more
    omega
  rw [SegmentTokens.sum_eq] at exceeds
  have := small .system
  have := small .tools
  have := small .history
  have := small .rag
  have := small .user
  cases key <;> omega

end Shares

theorem scaleTokens_sum (raw : Segment → Nat) (inputTokens : Nat) :
    (∀ key, 0 ≤ scaleTokens raw inputTokens key) ∧
      (scaleTokens raw inputTokens).sum = inputTokens := by
  simp only [scaleTokens]
  split
  · refine ⟨fun key => ?_, by simp [SegmentTokens.sum_eq, SegmentTokens.allUser]⟩
    cases key <;> simp [SegmentTokens.allUser]
  · next some =>
    have positive : (((Segment.all.map raw).sum : Nat) : ℚ) ≠ 0 := by exact_mod_cast some
    generalize whole : (inputTokens : ℚ) / ((Segment.all.map raw).sum : Nat) = scale
    have scaled : 0 ≤ scale := by
      rw [← whole]
      positivity
    have nonneg : ∀ key, 0 ≤ raw key * scale := fun key => by positivity
    have total : (Segment.all.map fun key => (raw key : ℚ) * scale).sum = inputTokens := by
      have product : ((Segment.all.map raw).sum : Nat) * scale = inputTokens := by
        rw [← whole, mul_div_cancel₀ _ positive]
      rw [← product]
      simp only [Segment.all, List.map_cons, List.map_nil, List.sum_cons, List.sum_nil]
      push_cast
      ring
    have rounded : (fun key => max 0 (roundHalfEven (raw key * scale))) =
        fun key => roundHalfEven (raw key * scale) := by
      funext key
      exact max_eq_right (roundHalfEven_nonneg (nonneg key))
    rw [rounded]
    exact SegmentTokens.align_sum (fun key => roundHalfEven_nonneg (nonneg key))
      (rounded_sum_le total) (rounded_ones nonneg total)

/-- The segments sum to the input that is billed, whatever the tokenizer. -/
theorem segments_sum (reader : PromptReader) (count : Str → Nat) (provider model : Str)
    (bodyBytes : List UInt8) (inputTokens : Nat) (segments : SegmentTokens)
    (returned : reader.analyzeRequestPrompt count provider model bodyBytes inputTokens = .ok segments) :
    (∀ key, 0 ≤ segments key) ∧ segments.sum = inputTokens := by
  have unread := scaleTokens_sum (fun _ => 0) inputTokens
  have none : scaleTokens (fun _ => 0) inputTokens = .allUser inputTokens := rfl
  rw [none] at unread
  rw [PromptReader.analyzeRequestPrompt] at returned
  split at returned
  · cases returned
    exact unread
  · split at returned
    · cases returned
      exact unread
    · next body _ =>
      cases read : reader.promptTexts body with
      | error e => rw [read] at returned; cases returned
      | ok texts =>
        rw [read] at returned
        cases returned
        exact scaleTokens_sum _ _

def fiveTexts : Json :=
  .obj [("system", .str "s<doc>d</doc>"), ("tools", .arr [.null]),
    ("messages", .arr [.obj [("content", .str "h")], .obj [("content", .str "q")]])]

def fiveReader : PromptReader where
  loads _ := some fiveTexts
  dumps _ := some "[null]"
  str _ := []

theorem three_of_five : ∃ segments,
    fiveReader.analyzeRequestPrompt (fun _ => 1) "openai" "gpt-4o" [123] 3 = .ok segments ∧
      (∀ key, 0 ≤ segments key) ∧ segments.sum = 3 := by
  have returns : (fiveReader.analyzeRequestPrompt (fun _ => 1) "openai" "gpt-4o" [123] 3).isOk = true := by
    decide +kernel
  cases returned : fiveReader.analyzeRequestPrompt (fun _ => 1) "openai" "gpt-4o" [123] 3 with
  | error e => rw [returned] at returns; cases returns
  | ok segments => exact ⟨segments, rfl, segments_sum _ _ _ _ _ _ _ returned⟩

/-- Two tokens too many: the first of the largest gives one, and the user's segment the other. -/
example : Segment.all.map (scaleTokens (fun _ => 1) 3) = [0, 1, 1, 1, 0] := by decide +kernel

end BurnLens.Analysis
