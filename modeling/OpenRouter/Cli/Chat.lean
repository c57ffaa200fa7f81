import Mathlib.Data.List.DropRight
import OpenRouter.Base.Transition
import OpenRouter.Cli.ApiClient

/-!
# Chat — the interactive session

`runChat` of `cli/src/api/chat.ts`, round by round: a line is read, a slash command is carried out
or a request is sent and its reply collected.  The array `messages` is all that the rounds have in
common; `sent_of_run` says what is sent of it in terms of the rounds since the last `/clear`.
-/

namespace OpenRouter
namespace Cli
namespace Chat

open Base

/-! ## Lines -/

/-- `s.trim()`. -/
def trim (s : List Char) : List Char :=
  ((s.dropWhile isTrimmed).reverse.dropWhile isTrimmed).reverse

/-- `s.split(/\s+/)`. -/
def splitSpaces : List Char → List (List Char)
  | [] => [[]]
  | c :: cs =>
      if isTrimmed c then
        -- Only the last of several spaces separates.
        if cs.head?.any isTrimmed then splitSpaces cs else [] :: splitSpaces cs
      else
        match splitSpaces cs with
        | word :: words => (c :: word) :: words
        | [] => [[c]]

/-! ## Replies -/

def typeError (of property : String) : Thrown :=
  .error ("Cannot read properties of " ++ of ++ " (reading '" ++ property ++ "')") none

/-- `chunk.choices[0]?.delta?.content`. -/
def chunkContent : Json → Except Thrown (Option Json)
  | .null => .error (typeError "null" "choices")
  | chunk =>
      let content (choice : Option Json) := property "content" (property "delta" choice)
      match property "choices" (some chunk) with
      | none => .error (typeError "undefined" "0")
      | some .null => .error (typeError "null" "0")
      | some (.arr choices) => .ok (content choices.head?)
      | some (.obj ms) => .ok (content (lastMember ms "0"))
      | some _ => .ok none

/-- A content that is no string is joined as one, but `process.stdout.write` does not take it; with
`--json` nothing is written. -/
def joined (rt : JsRuntime) (v : Json) : Except Thrown String :=
  match rt.unwritable v with
  | some message => .error (.error message (some "ERR_INVALID_ARG_TYPE"))
  | none => .ok (rt.text v)

/-- What a chunk adds to the reply: nothing when the `length` of its content is 0. -/
def pieceText (rt : JsRuntime) : Option Json → Except Thrown String
  | none | some .null => .ok ""
  | some (.str s) => .ok s
  | some (.arr []) => .ok ""
  | some (.obj ms) =>
      match lastMember ms "length" with
      | some (.num n) => if rt.isZero n then .ok "" else joined rt (.obj ms)
      | _ => joined rt (.obj ms)
  | some v => joined rt v

/-- The loop over the chunks. -/
def collect (rt : JsRuntime) : List Json → Except Thrown String
  | [] => .ok ""
  | chunk :: chunks => do
      let content ← chunkContent chunk
      let piece ← pieceText rt content
      let rest ← collect rt chunks
      return piece ++ rest

/-- The reply of the assistant, when nothing is thrown on the way. -/
def reply (rt : JsRuntime) (s : Streamed) : Except Thrown String := do
  let assistant ← collect rt s.chunks
  match s.thrown with
  | some err => .error err
  | none => .ok assistant

/-! ## The session -/

inductive Phase
  | reading
  | returned
  | exited (e : Exit)

structure Session where
  messages : List ChatMessage
  sent : List HttpRequest := []
  /-- The files that `/save` has written. -/
  saved : List (String × List Char) := []
  phase : Phase := .reading

/-- What a prompt gives. -/
inductive Input
  | line (text : List Char)
  /-- `ExitPromptError`. -/
  | closed
  | failed (err : Thrown)

/-- One round, with the answers of the gateway and of the file system if they are asked. -/
structure Round where
  input : Input
  fetched : Except Thrown StreamReply
  writeError : Option Thrown := none

def Session.exit (s : Session) (err : Thrown) : Session :=
  { s with phase := .exited (exitWithError err) }

/-- `JSON.stringify({ messages }, null, 2)`. -/
def savedText (messages : List ChatMessage) : List Char :=
  Json.write (indented 2) 0 (.obj [("messages", .arr (messages.map ChatMessage.tree))])

/-- `handleSlash`. -/
def handleSlash (s : Session) (r : Round) (line : List Char) : Session :=
  match splitSpaces line with
  | cmd :: rest =>
      if cmd = "/exit".toList ∨ cmd = "/quit".toList then { s with phase := .returned }
      else if cmd = "/clear".toList then { s with messages := [] }
      else if cmd = "/save".toList then
        let path := trim ([' '].intercalate rest)
        if path = [] then s.exit (.cli (.validation "Usage: /save <path>"))
        else
          match r.writeError with
          | some err => s.exit err
          | none => { s with saved := s.saved ++ [(String.ofList path, savedText s.messages)] }
      else s
  | [] => s

section Run

variable (rt : JsRuntime) (api : ApiClient) (model : String)

/-- The request for one more line of the user. -/
def request (messages : List ChatMessage) (line : List Char) : HttpRequest :=
  api.streamRequest
    { model := model
      messages := messages ++ [{ role := .user, content := String.ofList line }] }

/-- A line that is no command. -/
def ask (s : Session) (r : Round) (line : List Char) : Session :=
  let asked : Session :=
    { s with
      messages := s.messages ++ [{ role := .user, content := String.ofList line }]
      sent := s.sent ++ [request api model s.messages line] }
  match reply rt (chatCompletionStream rt r.fetched) with
  | .error err => asked.exit err
  | .ok assistant =>
      { asked with messages := asked.messages ++ [{ role := .assistant, content := assistant }] }

/-- One turn of the loop. -/
def step (s : Session) (r : Round) : Option Session :=
  match s.phase with
  | .reading =>
      match r.input with
      | .closed => some { s with phase := .returned }
      | .failed err => some (s.exit err)
      | .line text =>
          let line := trim text
          if line = [] then some s
          else if line.head? = some '/' then some (handleSlash s r line)
          else some (ask rt api model s r line)
  | _ => none

/-- The session before the first prompt; an empty system prompt is none. -/
def start (system : Option String) : Session where
  messages :=
    match system with
    | some prompt => if prompt = "" then [] else [{ role := .system, content := prompt }]
    | none => []

/-! ## What a round is -/

/-- The line of a round that the gateway is asked about. -/
def question (r : Round) : Option (List Char) :=
  match r.input with
  | .line text =>
      let line := trim text
      if line = [] ∨ line.head? = some '/' then none else some line
  | _ => none

/-- The slash command of a round: its words. -/
def command (r : Round) : Option (List (List Char)) :=
  match r.input with
  | .line text =>
      let line := trim text
      if line.head? = some '/' then some (splitSpaces line) else none
  | _ => none

def clears (r : Round) : Bool :=
  match command r with
  | some (cmd :: _) => cmd == "/clear".toList
  | _ => false

/-- The file that a round writes. -/
def savesTo (r : Round) : Option String :=
  match command r, r.writeError with
  | some (cmd :: rest), none =>
      let path := trim ([' '].intercalate rest)
      if cmd = "/save".toList ∧ path ≠ [] then some (String.ofList path) else none
  | _, _ => none

def answer (r : Round) : Except Thrown String :=
  reply rt (chatCompletionStream rt r.fetched)

/-- The question of a round and the answer to it, when both are there. -/
def turn (r : Round) : List ChatMessage :=
  match question r, answer rt r with
  | some line, .ok assistant =>
      [{ role := .user, content := String.ofList line },
        { role := .assistant, content := assistant }]
  | _, _ => []

/-- The conversation after some rounds: the turns since the last `/clear`, and the system prompt if
there was none. -/
def history (system : Option String) (rounds : List Round) : List ChatMessage :=
  (if rounds.any clears then [] else (start system).messages) ++
    (rounds.rtakeWhile fun r => !clears r).flatMap (turn rt)

theorem history_concat (system : Option String) (rounds : List Round) (r : Round) :
    history rt system (rounds ++ [r]) =
      if clears r then [] else history rt system rounds ++ turn rt r := by
  by_cases hclears : clears r = true
  · have hnone : (rounds ++ [r]).rtakeWhile (fun r => !clears r) = [] :=
      List.rtakeWhile_concat_neg _ _ _ (by simp [hclears])
    simp [history, hnone, hclears]
  · have hmore : (rounds ++ [r]).rtakeWhile (fun r => !clears r) =
        rounds.rtakeWhile (fun r => !clears r) ++ [r] :=
      List.rtakeWhile_concat_pos _ _ _ (by simp [hclears])
    simp [history, hmore, hclears]

/-! ## One round -/

/-- All that a round does. -/
structure Effect (s : Session) (r : Round) (s' : Session) : Prop where
  sent : s'.sent = s.sent ++ (question r).toList.map (request api model s.messages)
  saved : s'.saved = s.saved ++ (savesTo r).toList.map fun path => (path, savedText s.messages)
  messages : s'.phase = .reading →
    s'.messages = if clears r then [] else s.messages ++ turn rt r
  answered : s'.phase = .reading → (question r).isSome → ∃ a, answer rt r = .ok a

theorem savesTo_of_ne {r : Round} {cmd : List Char} {rest : List (List Char)}
    (hcommand : command r = some (cmd :: rest)) (hsave : cmd ≠ "/save".toList) :
    savesTo r = none := by
  cases hwrite : r.writeError with
  | some err => simp [savesTo, hwrite]
  | none =>
      simp only [savesTo, hcommand, hwrite]
      exact if_neg fun h => hsave h.1

section Slash

variable {r : Round} {text : List Char}

theorem question_of_slash (hinput : r.input = .line text)
    (hslash : (trim text).head? = some '/') : question r = none := by
  simp [question, hinput, hslash]

theorem turn_of_slash (hinput : r.input = .line text)
    (hslash : (trim text).head? = some '/') : turn rt r = [] := by
  simp [turn, question_of_slash hinput hslash]

theorem command_of_slash (hinput : r.input = .line text)
    (hslash : (trim text).head? = some '/') : command r = some (splitSpaces (trim text)) := by
  simp [command, hinput, hslash]

/-- A file is written where a path is named and the file system takes it. -/
theorem effect_of_save (s : Session) (hinput : r.input = .line text)
    (hslash : (trim text).head? = some '/') {rest : List (List Char)}
    (hwords : splitSpaces (trim text) = "/save".toList :: rest) :
    Effect rt api model s r (handleSlash s r (trim text)) := by
  have hquestion := question_of_slash hinput hslash
  have hcommand := command_of_slash hinput hslash
  rw [hwords] at hcommand
  have hquit : ¬("/save".toList = "/exit".toList ∨ "/save".toList = "/quit".toList) := by
    decide
  have hclear : "/save".toList ≠ "/clear".toList := by
    decide
  have hclears : clears r = false := by
    simp only [clears, hcommand, beq_eq_false_iff_ne]
    exact hclear
  by_cases hpath : trim ([' '].intercalate rest) = []
  · have hdone : handleSlash s r (trim text) =
        s.exit (.cli (.validation "Usage: /save <path>")) := by
      simp only [handleSlash, hwords, if_neg hquit, if_neg hclear, if_true, if_pos hpath]
    have hsaves : savesTo r = none := by
      cases hwrite : r.writeError <;> simp [savesTo, hcommand, hwrite, hpath]
    rw [hdone]
    constructor <;> simp [Session.exit, hquestion, hsaves]
  · cases hwrite : r.writeError with
    | some err =>
        have hdone : handleSlash s r (trim text) = s.exit err := by
          simp only [handleSlash, hwords, if_neg hquit, if_neg hclear, if_true, if_neg hpath,
            hwrite]
        have hsaves : savesTo r = none := by
          simp [savesTo, hcommand, hwrite]
        rw [hdone]
        constructor <;> simp [Session.exit, hquestion, hsaves]
    | none =>
        have hsaves : savesTo r = some (String.ofList (trim ([' '].intercalate rest))) := by
          simp only [savesTo, hcommand, hwrite]
          exact if_pos ⟨trivial, hpath⟩
        have hdone : handleSlash s r (trim text) =
            { s with
              saved := s.saved ++ [(String.ofList (trim ([' '].intercalate rest)),
                savedText s.messages)] } := by
          simp only [handleSlash, hwords, if_neg hquit, if_neg hclear, if_true, if_neg hpath,
            hwrite]
        rw [hdone]
        constructor <;> simp [hquestion, hsaves, hclears, turn_of_slash rt hinput hslash]

theorem effect_of_handleSlash (s : Session) (hinput : r.input = .line text)
    (hslash : (trim text).head? = some '/') :
    Effect rt api model s r (handleSlash s r (trim text)) := by
  have hquestion := question_of_slash hinput hslash
  have hturn : turn rt r = [] := turn_of_slash rt hinput hslash
  have hcommand := command_of_slash hinput hslash
  cases hwords : splitSpaces (trim text) with
  | nil =>
      rw [hwords] at hcommand
      constructor <;> simp [handleSlash, hwords, hquestion, hturn, savesTo, clears, hcommand]
  | cons cmd rest =>
      rw [hwords] at hcommand
      by_cases hsave : cmd = "/save".toList
      · exact effect_of_save rt api model s hinput hslash (hsave ▸ hwords)
      · have hsaves := savesTo_of_ne hcommand hsave
        by_cases hquit : cmd = "/exit".toList ∨ cmd = "/quit".toList
        · have hdone : handleSlash s r (trim text) = { s with phase := .returned } := by
            simp only [handleSlash, hwords, if_pos hquit]
          rw [hdone]
          constructor <;> simp [hquestion, hsaves]
        · by_cases hclear : cmd = "/clear".toList
          · have hdone : handleSlash s r (trim text) = { s with messages := [] } := by
              simp only [handleSlash, hwords, if_neg hquit, if_pos hclear]
            have hclears : clears r = true := by
              simp [clears, hcommand, hclear]
            rw [hdone]
            constructor <;> simp [hquestion, hsaves, hclears]
          · have hclears : clears r = false := by
              simp only [clears, hcommand, beq_eq_false_iff_ne]
              exact hclear
            have hdone : handleSlash s r (trim text) = s := by
              simp only [handleSlash, hwords, if_neg hquit, if_neg hclear, if_neg hsave]
            rw [hdone]
            constructor <;> simp [hquestion, hsaves, hclears, hturn]

end Slash

theorem effect_of_ask (s : Session) {r : Round} {text : List Char}
    (hinput : r.input = .line text) (hline : trim text ≠ [])
    (hslash : (trim text).head? ≠ some '/') :
    Effect rt api model s r (ask rt api model s r (trim text)) := by
  have hquestion : question r = some (trim text) := by
    simp [question, hinput, hline, hslash]
  have hcommand : command r = none := by
    simp [command, hinput, hslash]
  have hsaves : savesTo r = none := by
    simp [savesTo, hcommand]
  have hclears : clears r = false := by
    simp [clears, hcommand]
  cases hanswer : answer rt r with
  | error err =>
      have hdone : ask rt api model s r (trim text) =
          Session.exit { s with
            messages := s.messages ++ [{ role := .user, content := String.ofList (trim text) }]
            sent := s.sent ++ [request api model s.messages (trim text)] } err := by
        rw [answer] at hanswer
        simp only [ask, hanswer]
      rw [hdone]
      constructor <;> simp [Session.exit, hquestion, hsaves]
  | ok assistant =>
      have hdone : ask rt api model s r (trim text) =
          { s with
            messages := s.messages ++ turn rt r
            sent := s.sent ++ [request api model s.messages (trim text)] } := by
        have hturn : turn rt r = [{ role := .user, content := String.ofList (trim text) },
            { role := .assistant, content := assistant }] := by
          simp only [turn, hquestion, hanswer]
        rw [answer] at hanswer
        simp only [ask, hanswer, hturn, List.append_assoc, List.cons_append, List.nil_append]
      rw [hdone]
      constructor <;> simp [hquestion, hsaves, hclears, hanswer]

theorem effect_of_step {s s' : Session} {r : Round} (h : step rt api model s r = some s') :
    s.phase = .reading ∧ Effect rt api model s r s' := by
  unfold step at h
  split at h
  · rename_i hreading
    refine ⟨hreading, ?_⟩
    split at h
    · rename_i hinput
      cases h
      constructor <;> simp [question, command, savesTo, hinput]
    · rename_i err hinput
      cases h
      constructor <;> simp [Session.exit, question, command, savesTo, hinput]
    · rename_i text hinput
      dsimp only at h
      split at h
      · rename_i hempty
        cases h
        constructor <;>
          simp [question, command, savesTo, clears, turn, hinput, hempty]
      · rename_i hline
        split at h
        · rename_i hslash
          cases h
          exact effect_of_handleSlash rt api model s hinput hslash
        · rename_i hslash
          cases h
          exact effect_of_ask rt api model s hinput hline hslash
  · cases h

/-! ## Runs -/

/-- What a function finds in some rounds, each with the rounds before it. -/
def marked {α : Type} (f : Round → Option α) (past : List Round) :
    List Round → List (α × List Round)
  | [] => []
  | r :: rs => (f r).toList.map (fun a => (a, past)) ++ marked f (past ++ [r]) rs

theorem marked_concat {α : Type} (f : Round → Option α) (past rounds : List Round) (r : Round) :
    marked f past (rounds ++ [r]) =
      marked f past rounds ++ (f r).toList.map fun a => (a, past ++ rounds) := by
  induction rounds generalizing past with
  | nil => simp [marked]
  | cons r' rounds ih => simp [marked, ih]

theorem mem_marked {α : Type} {f : Round → Option α} {past rounds before : List Round} {a : α}
    (h : (a, before) ∈ marked f past rounds) :
    ∃ mid r rest, rounds = mid ++ r :: rest ∧ before = past ++ mid ∧ f r = some a := by
  induction rounds generalizing past with
  | nil => cases h
  | cons r rounds ih =>
      rcases List.mem_append.1 h with hhere | hlater
      · rcases List.mem_map.1 hhere with ⟨a', ha', heq⟩
        cases heq
        exact ⟨[], r, rounds, rfl, (List.append_nil _).symm, Option.mem_toList.1 ha'⟩
      · rcases ih hlater with ⟨mid, r', rest, hrounds, hbefore, ha⟩
        refine ⟨r :: mid, r', rest, by rw [hrounds, List.cons_append], ?_, ha⟩
        rw [hbefore, List.append_assoc, List.singleton_append]

/-- The requests of some rounds. -/
def requests (system : Option String) (rounds : List Round) : List HttpRequest :=
  (marked question [] rounds).map fun (line, past) =>
    request api model (history rt system past) line

/-- The files of some rounds. -/
def saves (system : Option String) (rounds : List Round) : List (String × List Char) :=
  (marked savesTo [] rounds).map fun (path, past) => (path, savedText (history rt system past))

/-- What a session has done after some rounds. -/
structure Recorded (system : Option String) (rounds : List Round) (s : Session) : Prop where
  messages : s.phase = .reading → s.messages = history rt system rounds
  sent : s.sent = requests rt api model system rounds
  saved : s.saved = saves rt system rounds

theorem recorded_of_run {system : Option String} {rounds : List Round} {s : Session}
    (h : exec (step rt api model) (start system) rounds = some s) :
    Recorded rt api model system rounds s := by
  refine exec_history (P := fun rounds s => Recorded rt api model system rounds s) ?start ?step h
  case start =>
    exact { messages := fun _ => by simp [history], sent := rfl, saved := rfl }
  case step =>
    intro past s r s' hpast hstep
    rcases effect_of_step rt api model hstep with ⟨hreading, heffect⟩
    have hmessages : s.messages = history rt system past := hpast.messages hreading
    exact
      { messages := fun hreading' => by
          rw [history_concat, ← hmessages]
          exact heffect.messages hreading'
        sent := by
          rw [heffect.sent, hpast.sent, hmessages, requests, requests, marked_concat]
          simp [Function.comp_def]
        saved := by
          rw [heffect.saved, hpast.saved, hmessages, saves, saves, marked_concat]
          simp [Function.comp_def] }

/-- In a session that still reads, every question has had its answer. -/
theorem answered_of_reading {system : Option String} {rounds : List Round} {s : Session}
    (h : exec (step rt api model) (start system) rounds = some s) (hreading : s.phase = .reading) :
    ∀ r ∈ rounds, (question r).isSome → ∃ a, answer rt r = .ok a := by
  revert hreading
  refine exec_history
    (P := fun rounds s => s.phase = .reading →
      ∀ r ∈ rounds, (question r).isSome → ∃ a, answer rt r = .ok a) ?start ?step h
  case start =>
    intro _ r hr
    cases hr
  case step =>
    intro past s r s' hpast hstep hreading' r' hr'
    rcases effect_of_step rt api model hstep with ⟨hreading, heffect⟩
    rcases List.mem_append.1 hr' with hr' | hr'
    · exact hpast hreading r' hr'
    · rw [List.mem_singleton.1 hr']
      exact heffect.answered hreading'

/-- A round that is not the last one has had its answer. -/
theorem answered_of_run {s s' : Session} {past rest : List Round} {r : Round} (hrest : rest ≠ [])
    (h : exec (step rt api model) s (past ++ r :: rest) = some s')
    (hquestion : (question r).isSome) :
    ∃ a, answer rt r = .ok a := by
  rcases exec_append.1 h with ⟨s₁, -, h₁⟩
  rcases exec_cons.1 h₁ with ⟨s₂, hr, h₂⟩
  rcases List.exists_cons_of_ne_nil hrest with ⟨r', rest', rfl⟩
  rcases exec_cons.1 h₂ with ⟨s₃, hr', -⟩
  -- The next round has begun, so the session was reading still.
  have hreading : s₂.phase = .reading := (effect_of_step rt api model hr').1
  exact (effect_of_step rt api model hr).2.answered hreading hquestion

/-- The requests of a session carry, each, the turns since the last `/clear` and the new line, under
the system prompt as long as nothing has been cleared; and the session ends at the first question
that gets no answer. -/
theorem sent_of_run (system : Option String) (rounds : List Round) {s : Session}
    (h : exec (step rt api model) (start system) rounds = some s) :
    s.sent = requests rt api model system rounds ∧
      ∀ past r rest, rounds = past ++ r :: rest → rest ≠ [] → (question r).isSome →
        ∃ a, answer rt r = .ok a := by
  refine ⟨(recorded_of_run rt api model h).sent, ?_⟩
  rintro past r rest rfl hrest hquestion
  exact answered_of_run rt api model hrest h hquestion

end Run

/-! ### Three lines -/

def plainJs : JsRuntime where
  text := fun _ => "[object Object]"
  isZero := fun n => n.text = ['0']
  finiteNumber := fun _ => none
  finiteInt := fun _ => none

def localApi : ApiClient where
  baseUrl := "http://localhost:8080/api/v1/"

/-- A line that the gateway answers with an empty stream. -/
def typed (text : String) : Round where
  input := .line text.toList
  fetched := .ok { statusCode := 200 }

/-- After `/clear` neither the first turn nor the system prompt is sent again. -/
theorem sent_of_run_cleared :
    ∃ s, exec (step plainJs localApi "gpt-4o") (start (some "Be brief."))
        [typed " Hi ", typed "/clear", typed "Bye"] = some s ∧
      s.sent = [request localApi "gpt-4o" [{ role := .system, content := "Be brief." }] "Hi".toList,
        request localApi "gpt-4o" [] "Bye".toList] := by
  refine ⟨_, rfl, ?_⟩
  exact (sent_of_run plainJs localApi "gpt-4o" (some "Be brief.")
    [typed " Hi ", typed "/clear", typed "Bye"] rfl).1

/-! ## Saved files -/

def roleOf (name : String) : Option Role :=
  [Role.system, .user, .assistant, .tool].find? fun role => role.name == name

def readMessage (j : Json) : Option ChatMessage :=
  match property "role" (some j), property "content" (some j) with
  | some (.str role), some (.str content) =>
      (roleOf role).map fun role => { role := role, content := content }
  | _, _ => none

/-- The messages of a saved file. -/
def readConversation (text : List Char) : Option (List ChatMessage) :=
  match property "messages" (parse text) with
  | some (.arr messages) => messages.mapM readMessage
  | _ => none

theorem roleOf_name (role : Role) : roleOf role.name = some role := by
  cases role <;> decide

theorem readMessage_tree (m : ChatMessage) : readMessage m.tree = some m := by
  have hrole : property "role" (some m.tree) = some (.str m.role.name) := by
    simp [property, ChatMessage.tree, lastMember]
  have hcontent : property "content" (some m.tree) = some (.str m.content) := by
    simp [property, ChatMessage.tree, lastMember]
  simp only [readMessage, hrole, hcontent, roleOf_name, Option.map_some]

theorem mapM_readMessage (messages : List ChatMessage) :
    (messages.map ChatMessage.tree).mapM readMessage = some messages := by
  induction messages with
  | nil => rfl
  | cons m messages ih => simp [readMessage_tree, ih]

theorem readConversation_savedText (messages : List ChatMessage) :
    readConversation (savedText messages) = some messages := by
  have hmessages : property "messages" (parse (savedText messages)) =
      some (.arr (messages.map ChatMessage.tree)) := by
    rw [savedText, parse_write]
    simp [property, lastMember]
  rw [readConversation, hmessages]
  exact mapM_readMessage messages

/-- The files of a session read back as the conversation at the time they were written. -/
theorem saved_of_run (rt : JsRuntime) (api : ApiClient) (model : String) (system : Option String)
    (rounds : List Round) {s : Session}
    (h : exec (step rt api model) (start system) rounds = some s) :
    (s.saved.map fun f => (f.1, readConversation f.2)) =
      (marked savesTo [] rounds).map fun (path, past) => (path, some (history rt system past)) := by
  rw [(recorded_of_run rt api model h).saved, saves, List.map_map]
  refine List.map_congr_left fun f _ => ?_
  simp only [Function.comp_apply, readConversation_savedText]

theorem saved_of_run_once :
    ∃ s, exec (step plainJs localApi "gpt-4o") (start (some "Say \"hi\"."))
        [typed "Hi", typed "/save  a b.json ", typed "/exit"] = some s ∧
      (s.saved.map fun f => (f.1, readConversation f.2)) =
        [("a b.json",
          some [{ role := .system, content := "Say \"hi\"." }, { role := .user, content := "Hi" },
            { role := .assistant, content := "" }])] := by
  refine ⟨_, rfl, ?_⟩
  exact saved_of_run plainJs localApi "gpt-4o" (some "Say \"hi\".")
    [typed "Hi", typed "/save  a b.json ", typed "/exit"] rfl

end Chat
end Cli
end OpenRouter
