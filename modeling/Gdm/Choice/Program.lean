import Gdm.Choice.Names
import Gdm.Library.ShellWords

/-!
# The program of a session

The worker is sent one string for the program, with the command between double quotes
and otherwise as it is in the session file.  It splits the string as the shell does.  A
quote in the command ends the quotes, and a backslash may vanish.
-/

namespace Gdm

open ShellWords

/-- The words that come before the command. -/
def Wrapper.words (libexecDir : String) : Wrapper → List String
  | .wayland true => [libexecDir ++ "/gdm-wayland-session", "--handle-registration"]
  | .wayland false => [libexecDir ++ "/gdm-wayland-session"]
  | .x11 => [libexecDir ++ "/gdm-x-session"]

/-- The program as `gdm_session_start_session` prints it. -/
def StartedSession.program (session : StartedSession) (libexecDir : String) : String :=
  match session.wrapper with
  | .wayland handlesRegistration =>
    libexecDir ++ "/gdm-wayland-session " ++
      (if handlesRegistration then "--handle-registration " else "") ++
        "\x22" ++ session.command ++ "\x22"
  | .x11 => libexecDir ++ "/gdm-x-session " ++ "\x22" ++ session.command ++ "\x22"

/-- What the worker is meant to run: the command is one argument. -/
def StartedSession.arguments (session : StartedSession) (libexecDir : String) : List String :=
  session.wrapper.words libexecDir ++ [session.command]

/-- `g_shell_parse_argv` -/
def shellParseArgv (text : String) : Option (List String) :=
  (parseArgv text.toList).map fun words => words.map String.ofList

/-- `gdm_session_worker_handle_start_program`: the arguments of the worker, which are not
there when the program cannot be parsed. -/
def workerArguments (program : String) : Option (List String) :=
  shellParseArgv program

theorem map_ofList_eq {words : List (List Char)} {strings : List String} :
    words.map String.ofList = strings ↔ words = strings.map String.toList := by
  constructor
  · rintro rfl
    simp
  · rintro rfl
    simp

theorem shellParseArgv_eq {text : String} {strings : List String} :
    shellParseArgv text = some strings ↔
      parseArgv text.toList = some (strings.map String.toList) := by
  unfold shellParseArgv
  cases parseArgv text.toList with
  | none => simp
  | some words => simp [map_ofList_eq]

/-- A command line of plain words and a text between double quotes. -/
theorem parseArgv_quoted_iff {plain : List (List Char)} (hne : plain ≠ [])
    (hplain : ∀ word ∈ plain, word ≠ [] ∧ ∀ c ∈ word, isOrdinary c = true) (text : List Char) :
    parseArgv ((plain.flatMap fun word => word ++ [' ']) ++
        doubleQuote :: (text ++ [doubleQuote])) = some (plain ++ [text]) ↔ Inert text := by
  have hscan : ∀ words : List (List Char),
      (∀ word ∈ words, word ≠ [] ∧ ∀ c ∈ word, isOrdinary c = true) →
      scan .plain none ((words.flatMap fun word => word ++ [' ']) ++
          doubleQuote :: (text ++ [doubleQuote])) =
        (scan .plain none (doubleQuote :: (text ++ [doubleQuote]))).map (words ++ ·) := by
    intro words hwords
    induction words with
    | nil => simp
    | cons word words ih =>
      obtain ⟨hword, hordinary⟩ := hwords word List.mem_cons_self
      rw [List.flatMap_cons, List.append_assoc, List.append_assoc, List.singleton_append,
        scan_word hordinary hword, ih fun w hw => hwords w (List.mem_cons_of_mem _ hw),
        Option.map_map]
      rfl
  rw [← scan_quoted_iff]
  unfold parseArgv
  rw [hscan plain hplain]
  obtain ⟨first, rest, rfl⟩ := List.exists_cons_of_ne_nil hne
  cases scan .plain none (doubleQuote :: (text ++ [doubleQuote])) with
  | none => simp
  | some words => simp

theorem words_ne_nil (wrapper : Wrapper) (libexecDir : String) :
    wrapper.words libexecDir ≠ [] := by
  cases wrapper with
  | wayland handlesRegistration => cases handlesRegistration <;> simp [Wrapper.words]
  | x11 => simp [Wrapper.words]

/-- The program is the words of the wrapper and the command between double quotes. -/
theorem program_toList (session : StartedSession) (libexecDir : String) :
    (session.program libexecDir).toList =
      ((session.wrapper.words libexecDir).map String.toList).flatMap (fun word => word ++ [' ']) ++
        doubleQuote :: (session.command.toList ++ [doubleQuote]) := by
  unfold StartedSession.program
  cases session.wrapper with
  | wayland handlesRegistration =>
    cases handlesRegistration <;> simp [Wrapper.words, String.toList_append, doubleQuote]
  | x11 => simp [Wrapper.words, String.toList_append, doubleQuote]

/-- Where the programs are installed is a path of characters that mean nothing to the
shell, and so are the words before the command. -/
theorem words_ordinary {libexecDir : String}
    (hdir : ∀ c ∈ libexecDir.toList, isOrdinary c = true) (wrapper : Wrapper) :
    ∀ word ∈ (wrapper.words libexecDir).map String.toList,
      word ≠ [] ∧ ∀ c ∈ word, isOrdinary c = true := by
  have hpath : ∀ name : List Char, name ≠ [] → (∀ c ∈ name, isOrdinary c = true) →
      libexecDir.toList ++ name ≠ [] ∧ ∀ c ∈ libexecDir.toList ++ name, isOrdinary c = true := by
    intro name hname hordinary
    refine ⟨List.append_ne_nil_of_right_ne_nil _ hname, fun c hc => ?_⟩
    rcases List.mem_append.mp hc with hc | hc
    · exact hdir c hc
    · exact hordinary c hc
  have hwayland := hpath "/gdm-wayland-session".toList (by decide) (List.all_eq_true.mp (by decide))
  have hx11 := hpath "/gdm-x-session".toList (by decide) (List.all_eq_true.mp (by decide))
  have hflag : "--handle-registration".toList ≠ [] ∧
      ∀ c ∈ "--handle-registration".toList, isOrdinary c = true :=
    ⟨by decide, List.all_eq_true.mp (by decide)⟩
  intro word hword
  obtain ⟨text, htext, rfl⟩ := List.mem_map.mp hword
  cases wrapper with
  | wayland handlesRegistration =>
    cases handlesRegistration with
    | false =>
      obtain rfl := List.mem_singleton.mp htext
      rw [String.toList_append]
      exact hwayland
    | true =>
      rcases List.mem_cons.mp htext with rfl | htext
      · rw [String.toList_append]
        exact hwayland
      · obtain rfl := List.mem_singleton.mp htext
        exact hflag
  | x11 =>
    obtain rfl := List.mem_singleton.mp htext
    rw [String.toList_append]
    exact hx11

/-- The worker gets the wrapper, its flag and the command byte for byte just when nothing
in the command means anything between double quotes. -/
theorem workerArguments_program_iff {libexecDir : String}
    (hdir : ∀ c ∈ libexecDir.toList, isOrdinary c = true) (session : StartedSession) :
    workerArguments (session.program libexecDir) = some (session.arguments libexecDir) ↔
      Inert session.command.toList := by
  unfold workerArguments
  rw [shellParseArgv_eq, program_toList]
  have hne : (session.wrapper.words libexecDir).map String.toList ≠ [] := by
    simpa using words_ne_nil session.wrapper libexecDir
  have hiff := parseArgv_quoted_iff hne (words_ordinary hdir session.wrapper)
    session.command.toList
  unfold StartedSession.arguments
  rw [List.map_append]
  exact hiff

/-- A session whose command sets a variable to a quoted value. -/
def quotingSession : StartedSession :=
  { serviceName := "gdm-password"
    sentType := some "wayland"
    sessionType := some "wayland"
    path := "/usr/share/wayland-sessions/sway.desktop"
    wrapper := .wayland true
    command := "env DESKTOP=\x22Sway IPC\x22 sway" }

/-- The value of the variable is split off. -/
theorem workerArguments_quotingSession :
    workerArguments (quotingSession.program "/usr/libexec") ≠
      some (quotingSession.arguments "/usr/libexec") := by
  decide +kernel

theorem workerArguments_program_iff_gnome :
    workerArguments (({ quotingSession with
        command := "gnome-session --session=gnome" } : StartedSession).program "/usr/libexec") =
      some (({ quotingSession with
        command := "gnome-session --session=gnome" } : StartedSession).arguments "/usr/libexec") ↔
      Inert "gnome-session --session=gnome".toList :=
  workerArguments_program_iff (List.all_eq_true.mp (by decide)) _

end Gdm
