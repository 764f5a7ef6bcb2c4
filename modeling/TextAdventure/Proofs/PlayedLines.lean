import TextAdventure.Proofs.Answers
import TextAdventure.Proofs.JoinedLines

/-!
# Lines that are typed and lines of a script

A game can be played with a line editor or from a script.  The two loops differ in what they strip
and what they print around an answer, but each of them holds the same conversation: it answers the
commands in its lines one after another, up to the first that ends the game.
-/

namespace TextAdventure

/-- The first word of the line is the command that ends the game. -/
def asksToQuit (line : String) : Bool :=
  let word := String.ofList (Text.cutAtBlank (Text.trim line.toList)).1
  word = ":quit" || word = ":q"

/-- The lines up to the first that asks to end the game, with this one. -/
def upToQuit : List String → List String
  | [] => []
  | line :: rest => if asksToQuit line then [line] else line :: upToQuit rest

/-- A line and what it came to: an answer, or the fault that kept it from being answered. -/
structure Exchange where
  line : String
  reply : Except Fault Reply

namespace Exchange

/-- What is to be printed for the line: the text of the answer or the fault, and nothing for an
answer without a text. -/
def told (exchange : Exchange) : List Output :=
  match exchange.reply with
  | .ok (.answer (some text)) => [.text text]
  | .ok (.answer none) => []
  | .ok .quit => []
  | .error fault => [.fault fault]

/-- The answers one after another. -/
def printed (exchanges : List Exchange) : List Output :=
  exchanges.flatMap told

/-- The lines behind the prompt, each with its answer. -/
def echoed (prompt : String) (exchanges : List Exchange) : List Output :=
  exchanges.flatMap fun exchange => .text (prompt ++ exchange.line) :: exchange.told

/-- For every answer the loops print what is to be printed, whatever the line was. -/
theorem shown_eq_told (line : String) (reply : Except Fault Reply) :
    (Reply.shown reply).1 = told ⟨line, reply⟩ := by
  rcases reply with fault | ((_ | text) | _) <;> rfl

end Exchange

/-- A line editor hands out these lines and then the end of the input; there may be interrupts
anywhere. -/
inductive Event.HandsOut : List Event → List String → Prop
  | exhausted : HandsOut [] []
  | ended (rest : List Event) : HandsOut (.endOfInput :: rest) []
  | interrupt {events : List Event} {lines : List String} (hrest : HandsOut events lines) :
      HandsOut (.interrupt :: events) lines
  | line (line : String) {events : List Event} {lines : List String}
      (hrest : HandsOut events lines) : HandsOut (.line line :: events) (line :: lines)

theorem Reply.shown_next_of_ne_quit {reply : Except Fault Reply} (hreply : reply ≠ .ok .quit) :
    (Reply.shown reply).2 = .goOn := by
  rcases reply with fault | text | _
  · rfl
  · rfl
  · exact absurd rfl hreply

/-- A transcript records a game that came to its regular end: what was printed at the beginning,
the answers, and the last words.  What the editor was to remember are the lines as they were typed,
with the blank space around them. -/
structure Transcript.Records (transcript : Transcript) (opening : List Output) (final : Session)
    (exchanges : List Exchange) : Prop where
  session_eq : transcript.session = final
  output_eq : transcript.output =
    opening ++ Exchange.printed exchanges ++ [.text "\nGoodbye!"]
  remembered_eq : transcript.remembered.map Text.trimmed = exchanges.map (·.line)
  result_eq : transcript.result = .ok ()

theorem Transcript.Records.opened {transcript : Transcript} {final : Session}
    {exchanges : List Exchange} (hrecords : transcript.Records [] final exchanges)
    (opening : List Output) :
    { transcript with output := opening ++ transcript.output }.Records opening final exchanges :=
  ⟨hrecords.session_eq, by simp [hrecords.output_eq], hrecords.remembered_eq, hrecords.result_eq⟩

theorem Transcript.Records.offering {transcript : Transcript} {opening : List Output}
    {final : Session} {exchanges : List Exchange}
    (hrecords : transcript.Records opening final exchanges) (offered : List (List String)) :
    { transcript with offered }.Records opening final exchanges :=
  ⟨hrecords.session_eq, hrecords.output_eq, hrecords.remembered_eq, hrecords.result_eq⟩

section State

variable {σ : Type}

theorem run_bind {α β : Type} (first : StateM σ α) (second : α → StateM σ β) (files : σ) :
    (first >>= second).run files = (second (first.run files).1).run (first.run files).2 := rfl

theorem run_pure {α : Type} (result : α) (files : σ) :
    (pure result : StateM σ α).run files = (result, files) := rfl

end State

namespace Session

/-! ## Conversations -/

section Conversation

variable {m : Type → Type} [Monad m] [Files m]

/-- Answers lines one after another, up to the first whose answer ends the game. -/
def converse (session : Session) : List String → m (Session × List Exchange)
  | [] => return (session, [])
  | line :: rest => do
    let (after, reply) ← session.respond line
    if reply = .ok .quit then return (after, [⟨line, reply⟩])
    else
      let (final, exchanges) ← after.converse rest
      return (final, ⟨line, reply⟩ :: exchanges)

end Conversation

section Files

variable {σ : Type} [Files (StateM σ)]

theorem run_converse_of_quit {session after : Session} {line : String} {files left : σ}
    (hanswer : (session.respond line : StateM σ _).run files = ((after, .ok .quit), left))
    (rest : List String) :
    (session.converse (line :: rest) : StateM σ _).run files =
      ((after, [⟨line, .ok .quit⟩]), left) := by
  rw [converse, run_bind, hanswer]
  simp only [↓reduceIte, run_pure]

theorem run_converse_of_ne_quit {session after : Session} {line : String}
    {reply : Except Fault Reply} {files middle : σ}
    (hanswer : (session.respond line : StateM σ _).run files = ((after, reply), middle))
    (hreply : reply ≠ .ok .quit) (rest : List String) :
    (session.converse (line :: rest) : StateM σ _).run files =
      let conversed := (after.converse rest : StateM σ _).run middle
      ((conversed.1.1, ⟨line, reply⟩ :: conversed.1.2), conversed.2) := by
  rw [converse, run_bind, hanswer]
  simp only [hreply, ↓reduceIte, run_bind, run_pure]

/-! ## Where a conversation ends -/

theorem read_eq_quit_iff (cs : List Char) :
    MetaCommand.read cs = .quit ↔
      String.ofList (Text.cutAtBlank cs).1 = "quit" ∨
        String.ofList (Text.cutAtBlank cs).1 = "q" := by
  rw [MetaCommand.read]
  generalize Text.cutAtBlank cs = pieces
  obtain ⟨name, rest⟩ := pieces
  dsimp only
  generalize String.ofList name = word
  generalize String.ofList (Text.trim rest) = argument
  by_cases hargument : argument = "" <;> split <;> simp_all

theorem answerMeta_eq_quit_iff (session : Session) (command : MetaCommand) (files : σ) :
    ((session.answerMeta command : StateM σ _).run files).1.2 = .ok .quit ↔ command = .quit := by
  have hmap : ∀ (result : Except Fault Unit) (text : String),
      result.map (fun _ => Reply.answer (some text)) ≠ .ok .quit := by
    intro result text
    cases result <;> simp [Except.map]
  cases command with
  | save path =>
      rw [run_answerMeta_save]
      simpa using hmap _ _
  | load path =>
      rw [run_answerMeta_load]
      simpa using hmap _ _
  | quit => exact ⟨fun _ => rfl, fun _ => rfl⟩
  | look | inventory | lacksPath | unknown =>
      rw [answerMeta, run_pure]
      simp

/-- The word that asks to end the game is the first of its line, with the colon. -/
theorem respond_eq_quit_iff (session : Session) (line : String) (files : σ) :
    ((session.respond line : StateM σ _).run files).1.2 = .ok .quit ↔ asksToQuit line = true := by
  by_cases hcommand : (Text.trim line.toList).head? = some ':'
  · obtain ⟨rest, hrest⟩ := List.head?_eq_some_iff.mp hcommand
    have hword : (Text.cutAtBlank (':' :: rest)).1 = ':' :: (Text.cutAtBlank rest).1 := by
      simp [Text.cutAtBlank, show Text.isBlank ':' = false by decide]
    simp only [respond, hrest, answerMeta_eq_quit_iff, read_eq_quit_iff, asksToQuit, hword]
    simp [← String.toList_inj]
  · rw [session.respond_of_command hcommand]
    have hreply : (session.answerCommand (Text.trimmed line)).2 ≠ .quit := by
      rw [answerCommand_eq]
      simp
    have hasks : asksToQuit line = false := by
      simp only [asksToQuit, Text.cutAtBlank, ← String.toList_inj]
      cases htrim : Text.trim line.toList with
      | nil => decide
      | cons c rest =>
          have hc : c ≠ ':' := by simpa [htrim] using hcommand
          by_cases hblank : Text.isBlank c = true <;> simp [hblank, hc]
    simp [hreply, hasks]

/-- A conversation ends with the first line that asks for it. -/
theorem lines_of_converse (session : Session) (lines : List String) (files : σ) :
    ((session.converse lines : StateM σ _).run files).1.2.map (·.line) = upToQuit lines := by
  induction lines generalizing session files with
  | nil => rfl
  | cons line rest ih =>
      have hquit := session.respond_eq_quit_iff line files
      rcases hanswer : (session.respond line : StateM σ _).run files with
        ⟨⟨after, reply⟩, middle⟩
      rw [hanswer] at hquit
      by_cases hreply : reply = .ok .quit
      · subst hreply
        rw [run_converse_of_quit hanswer, upToQuit, if_pos (hquit.mp rfl)]
        rfl
      · have hgoes : ¬ asksToQuit line = true := fun hasks => hreply (hquit.mpr hasks)
        rw [run_converse_of_ne_quit hanswer hreply, upToQuit, if_neg hgoes]
        simp only [List.map_cons, ih]

/-! ## Lines of a script -/

theorem respond_trimmed (session : Session) (line : String) :
    (session.respond (Text.trimmed line) : StateM σ _) = session.respond line := by
  have htrim : Text.trim (Text.trimmed line).toList = Text.trim line.toList := by
    rw [Text.trimmed, String.toList_ofList, Text.trim_trim]
  rw [respond, respond, htrim]

/-- The commands in the lines of a script; comments are none. -/
def scriptCommands (lines : List String) : List String :=
  (Text.commands lines).filter (·.toList.head? ≠ some '#')

theorem scriptCommands_cons (line : String) (rest : List String) :
    scriptCommands (line :: rest) =
      if (Text.trim line.toList).isEmpty || (Text.trim line.toList).head? = some '#'
      then scriptCommands rest
      else Text.trimmed line :: scriptCommands rest := by
  by_cases hblank : Text.trim line.toList = []
  · have hempty := (Text.trimmed_eq_empty_iff line).mpr hblank
    simp [scriptCommands, Text.commands_cons_of_blank hempty, hblank]
  · have hkept := mt (Text.trimmed_eq_empty_iff line).mp hblank
    rw [scriptCommands, Text.commands_cons_of_not_blank hkept, List.filter_cons, ← scriptCommands]
    by_cases hcomment : (Text.trim line.toList).head? = some '#' <;>
      simp [Text.trimmed, hblank, hcomment]

theorem scriptCommands_joined {lines : List String}
    (hbreaks : ∀ line ∈ lines, '\n' ∉ line.toList)
    (hcomments : ∀ line ∈ lines, (Text.trim line.toList).head? ≠ some '#') :
    scriptCommands (Text.lines ("\n".intercalate lines)) = Text.commands lines := by
  rw [scriptCommands, Text.commands_lines_intercalate hbreaks, List.filter_eq_self]
  intro command hcommand
  obtain ⟨line, hline, rfl⟩ := List.mem_map.mp (List.mem_of_mem_filter hcommand)
  simpa [Text.trimmed] using hcomments line hline

theorem run_playLines (session : Session) (prompt : String) (lines : List String) (files : σ) :
    (session.playLines prompt lines : StateM σ _).run files =
      let conversed := (session.converse (scriptCommands lines) : StateM σ _).run files
      ((conversed.1.1, Exchange.echoed prompt conversed.1.2), conversed.2) := by
  induction lines generalizing session files with
  | nil => rfl
  | cons line rest ih =>
      rw [playLines, scriptCommands_cons, ← Text.trimmed]
      split
      · exact ih session files
      · rcases hanswer : (session.respond (Text.trimmed line) : StateM σ _).run files with
          ⟨⟨after, reply⟩, middle⟩
        rw [run_bind, hanswer]
        by_cases hreply : reply = .ok .quit
        · subst hreply
          rw [run_converse_of_quit hanswer]
          rfl
        · have hnext : ¬ (Reply.shown reply).2 = .stop := by
            simp [Reply.shown_next_of_ne_quit hreply]
          simp only [run_converse_of_ne_quit hanswer hreply, hnext, ↓reduceIte, run_bind, ih,
            run_pure, Exchange.echoed, Exchange.shown_eq_told (Text.trimmed line),
            List.flatMap_cons, List.cons_append]

/-! ## Lines that are typed -/

theorem run_play_of_stop {session : Session} {event : Event} {turn : Turn} {files left : σ}
    (hturn : (session.turn event : StateM σ _).run files = (turn, left))
    (hnext : turn.next = .stop) (rest : List Event) :
    (session.play (event :: rest) : StateM σ _).run files =
      ({ session := turn.session, output := turn.output, offered := [session.completions]
         remembered := turn.remembered.toList, unread := rest.length }, left) := by
  simp only [play, run_bind, hturn, hnext, run_pure]

theorem run_play_of_goOn {session : Session} {event : Event} {turn : Turn} {files middle : σ}
    (hturn : (session.turn event : StateM σ _).run files = (turn, middle))
    (hnext : turn.next = .goOn) (rest : List Event) :
    (session.play (event :: rest) : StateM σ _).run files =
      let played := (turn.session.play rest : StateM σ _).run middle
      ({ played.1 with
         output := turn.output ++ played.1.output
         offered := [session.completions] ++ played.1.offered
         remembered := turn.remembered.toList ++ played.1.remembered }, played.2) := by
  simp only [play, run_bind, hturn, hnext, run_pure]

theorem run_turn_of_blank (session : Session) {line : String}
    (hblank : Text.trimmed line = "") (files : σ) :
    (session.turn (.line line) : StateM σ _).run files = ({ session }, files) := by
  have hempty := (Text.trimmed_eq_empty_iff line).mp hblank
  simp only [turn, hempty, List.isEmpty_nil, ↓reduceIte, run_pure]

theorem run_turn_of_not_blank {session after : Session} {line : String}
    {reply : Except Fault Reply} {files left : σ} (hkept : Text.trimmed line ≠ "")
    (hanswer : (session.respond line : StateM σ _).run files = ((after, reply), left)) :
    (session.turn (.line line) : StateM σ _).run files =
      ({ session := after
         output := (Reply.shown reply).1 ++
           if (Reply.shown reply).2 = .stop then [.text "\nGoodbye!"] else []
         remembered := some line, next := (Reply.shown reply).2 }, left) := by
  have hsolid := mt (Text.trimmed_eq_empty_iff line).mpr hkept
  simp only [turn, List.isEmpty_iff, hsolid, ↓reduceIte, run_bind, hanswer, run_pure]

/-- Whatever is typed, the loop holds the conversation on its commands. -/
theorem run_play (session : Session) {events : List Event} {lines : List String}
    (hevents : Event.HandsOut events lines) (files : σ) :
    let conversed := (session.converse (Text.commands lines) : StateM σ _).run files
    let played := (session.play events : StateM σ _).run files
    played.1.Records [] conversed.1.1 conversed.1.2 ∧ played.2 = conversed.2 := by
  induction hevents generalizing session files with
  | exhausted => exact ⟨⟨rfl, rfl, rfl, rfl⟩, rfl⟩
  | ended rest => exact ⟨⟨rfl, rfl, rfl, rfl⟩, rfl⟩
  | interrupt hrest ih =>
      obtain ⟨hrecords, hleft⟩ := ih session files
      rw [run_play_of_goOn rfl rfl]
      exact ⟨hrecords.offering _, hleft⟩
  | line line hrest ih =>
      by_cases hblank : Text.trimmed line = ""
      · obtain ⟨hrecords, hleft⟩ := ih session files
        rw [Text.commands_cons_of_blank hblank,
          run_play_of_goOn (session.run_turn_of_blank hblank files) rfl]
        exact ⟨hrecords.offering _, hleft⟩
      · rw [Text.commands_cons_of_not_blank hblank]
        rcases hanswer : (session.respond line : StateM σ _).run files with
          ⟨⟨after, reply⟩, middle⟩
        have hturn := run_turn_of_not_blank hblank hanswer
        -- The conversation has the line without the blank space around it.
        rw [← respond_trimmed] at hanswer
        by_cases hreply : reply = .ok .quit
        · subst hreply
          rw [run_converse_of_quit hanswer, run_play_of_stop hturn rfl]
          exact ⟨⟨rfl, rfl, rfl, rfl⟩, rfl⟩
        · obtain ⟨hrecords, hleft⟩ := ih after middle
          have hnext := Reply.shown_next_of_ne_quit hreply
          rw [run_converse_of_ne_quit hanswer hreply, run_play_of_goOn hturn hnext]
          refine ⟨⟨hrecords.session_eq, ?_, ?_, hrecords.result_eq⟩, hleft⟩
          · simp [hnext, hrecords.output_eq, Exchange.printed,
              Exchange.shown_eq_told (Text.trimmed line)]
          · simp [hrecords.remembered_eq]

end Files

end Session

namespace Player

theorem run_runScript_of_readFile {σ : Type} [Files (StateM σ)] (player : Player)
    {path text : String} {files : σ}
    (hfile : (Files.readFile path : StateM σ _).run files = (.ok (Text.toBytes text), files)) :
    (player.runScript path : StateM σ _).run files =
      let played :=
        (player.session.playLines player.prompt (Text.lines text) : StateM σ _).run files
      ({ session := played.1.1, output := .text player.session.describe :: played.1.2 },
        played.2) := by
  have htext : (Files.readText path : StateM σ _).run files = (some text, files) := by
    simp only [Files.readText, run_bind, hfile, Text.ofBytes?_toBytes, run_pure]
  simp only [runScript, run_bind, htext, run_pure]

/-- Lines that are typed, with interrupts anywhere, and the same lines in a script are the same
game.  Their commands are answered one after another up to the first that asks to end the game, or
to the end; both loops print the answers of this conversation and leave its session and its
files. -/
theorem run_and_runScript_converse {σ : Type} [Files (StateM σ)] (player : Player)
    {events : List Event} {lines : List String} {path : String} {files : σ}
    (hevents : Event.HandsOut events lines)
    (hbreaks : ∀ line ∈ lines, '\n' ∉ line.toList)
    (hcomments : ∀ line ∈ lines, (Text.trim line.toList).head? ≠ some '#')
    (hfile : (Files.readFile path : StateM σ _).run files =
      (.ok (Text.toBytes ("\n".intercalate lines)), files)) :
    ∃ final exchanges left,
      (player.session.converse (Text.commands lines) : StateM σ _).run files =
        ((final, exchanges), left) ∧
      exchanges.map (·.line) = upToQuit (Text.commands lines) ∧
      (∃ typed, (player.run events : StateM σ _).run files = (typed, left) ∧
        typed.Records player.opening final exchanges) ∧
      (player.runScript path : StateM σ _).run files =
        ({ session := final
           output := .text player.session.describe :: Exchange.echoed player.prompt exchanges },
          left) := by
  have hlines := player.session.lines_of_converse (Text.commands lines) files
  obtain ⟨hrecords, hleft⟩ := player.session.run_play hevents files
  have hscript := player.run_runScript_of_readFile hfile
  rw [Session.run_playLines, Session.scriptCommands_joined hbreaks hcomments] at hscript
  rcases hconverse : (player.session.converse (Text.commands lines) : StateM σ _).run files with
    ⟨⟨final, exchanges⟩, left⟩
  simp only [hconverse] at hlines hrecords hleft hscript
  refine ⟨final, exchanges, left, rfl, hlines, ⟨_, ?_, hrecords.opened player.opening⟩, hscript⟩
  rw [run, run_bind, hleft, run_pure]

/-- Lines of which one is blank, one fails and one is never read. -/
def leverLines : List String :=
  ["", " dance", ":save", "pull lever\r", ":q", "climb ladder"]

/-- A player in the hall with the lever. -/
def leverPlayer : Player := { session := Session.leverSession }

/-- A disk with the lines as a script. -/
def leverDisk : Disk :=
  (Disk.empty.write "script" (Text.toBytes ("\n".intercalate leverLines))).2

theorem run_and_runScript_converse_leverPlayer :
    ∃ events, Event.HandsOut events leverLines ∧ .interrupt ∈ events ∧
      (∀ line ∈ leverLines, '\n' ∉ line.toList) ∧
      (∀ line ∈ leverLines, (Text.trim line.toList).head? ≠ some '#') ∧
      ∃ final exchanges left,
        exchanges.map (·.line) = ["dance", ":save", "pull lever", ":q"] ∧
        Exchange.printed exchanges =
          [.text Session.refusalMark, .fault { kind := .internal ":save requires a path" },
            .text "You fall.\n\n\x1b[1m\x1b[0m\nYou notice: ladder"] ∧
        (∃ typed, (leverPlayer.run events : StateM Disk _).run leverDisk = (typed, left) ∧
          typed.Records leverPlayer.opening final exchanges) ∧
        (leverPlayer.runScript "script" : StateM Disk _).run leverDisk =
          ({ session := final
             output := .text leverPlayer.session.describe ::
               Exchange.echoed leverPlayer.prompt exchanges }, left) := by
  have hevents : Event.HandsOut
      [.line "", .interrupt, .line " dance", .line ":save", .line "pull lever\r", .interrupt,
        .line ":q", .line "climb ladder"] leverLines :=
    .line _ (.interrupt (.line _ (.line _ (.line _ (.interrupt (.line _ (.line _ .exhausted)))))))
  have hbreaks : ∀ line ∈ leverLines, '\n' ∉ line.toList := by decide
  have hcomments : ∀ line ∈ leverLines, (Text.trim line.toList).head? ≠ some '#' := by decide
  have hfile : (Files.readFile "script" : StateM Disk _).run leverDisk =
      (.ok (Text.toBytes ("\n".intercalate leverLines)), leverDisk) :=
    congrArg (·, leverDisk) (Disk.read_write .empty "script" _ (by decide))
  obtain ⟨final, exchanges, left, hconverse, hlines, hrun, hscript⟩ :=
    run_and_runScript_converse leverPlayer hevents hbreaks hcomments hfile
  have hcommands : upToQuit (Text.commands leverLines) =
      ["dance", ":save", "pull lever", ":q"] := by decide
  have hprinted : Exchange.printed exchanges =
      [.text Session.refusalMark, .fault { kind := .internal ":save requires a path" },
        .text "You fall.\n\n\x1b[1m\x1b[0m\nYou notice: ladder"] := by
    obtain rfl := congrArg (·.1.2) hconverse
    decide +kernel
  exact ⟨_, hevents, by simp, hbreaks, hcomments, final, exchanges, left,
    hlines.trans hcommands, hprinted, hrun, hscript⟩

end Player

end TextAdventure
