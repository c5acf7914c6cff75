import TypeGauge.Proofs.Setup.Precedence

/-!
# What a configuration falls back on

Loading a configuration is meant to end well whatever the settings file holds.  A file
that cannot be understood is rejected and the variables still count, and settings that
cannot be used are all rejected together.  Either way no setting has a value of the
rejected file: it is standard, or `Environment.Provides` names the variable it is from.

Some causes are not rejections and end the whole run instead.  `LoadInterrupts` lists them:
a home directory that cannot be found, a path that cannot be asked about, a file that is no
text, a number or a nesting that goes beyond what can be read, a project file whose tools
are no table, an added variable that cannot be set, a variable for the policy that is no
document, and whatever an option in the file makes of the settings library.  Loading
returns a configuration exactly when none of them is met.
-/

namespace TypeGauge.Setup

open TypeGauge.Data TypeGauge.Data.Value TypeGauge.Files TypeGauge.Text

/-! ## What stops loading -/

/-- Following a tilde at the front of a path ends the run. -/
inductive HomeInterrupts (host : Host) : Path → Interruption → Prop
  /-- No account can have the name. -/
  | unusable {first : String} {name : List Char} {rest : List String}
      (starts : first.toList = homeSign :: name) (isUnusable : Char.ofNat 0 ∈ name) :
      HomeInterrupts host ⟨.relative, first :: rest⟩ .unusablePath
  /-- There is no home directory. -/
  | unknown {first : String} {name : List Char} {rest : List String}
      (starts : first.toList = homeSign :: name) (isUsable : Char.ofNat 0 ∉ name)
      (absent : host.home? (String.ofList name) = none) :
      HomeInterrupts host ⟨.relative, first :: rest⟩ .homeless
  /-- The home directory is itself behind a tilde. -/
  | circular {first home : String} {name : List Char} {rest : List String}
      (starts : first.toList = homeSign :: name) (isUsable : Char.ofNat 0 ∉ name)
      (found : host.home? (String.ofList name) = some home)
      (isBehind : home.toList.head? = some homeSign) :
      HomeInterrupts host ⟨.relative, first :: rest⟩ .homeless

/-- The file at a path is text, with these characters. -/
def HoldsText (tree : Tree) (path : Path) (characters : List Char) : Prop :=
  tree.isFile path = .ok true ∧
    ∃ octets, tree.read path = .ok octets ∧ Octets.decodeText octets = .ok characters

/-- What a text is read as; the ending of the path tells how. -/
inductive ReadsAs (path : Path) (characters : List Char) (value : Value) : Prop
  | document (isDocument : isDocumentFile path = true)
      (read : Json.readDocument Nesting.documentRoom characters = .ok value)
  | tables (isTables : isDocumentFile path = false)
      (read : Toml.readDocument Nesting.documentRoom characters = .ok value)

/-- A text goes beyond what can be read. -/
inductive Exceeds (path : Path) (characters : List Char) : Fault → Prop
  | documentDigits {count : Nat} (isDocument : isDocumentFile path = true)
      (refused : Json.readDocument Nesting.documentRoom characters =
        .error (.tooManyDigits count)) : Exceeds path characters (.tooManyDigits count)
  | documentNesting (isDocument : isDocumentFile path = true)
      (refused : Json.readDocument Nesting.documentRoom characters = .error .tooDeep) :
      Exceeds path characters .tooDeep
  | tableDigits {count : Nat} (isTables : isDocumentFile path = false)
      (refused : Toml.readDocument Nesting.documentRoom characters =
        .error (.tooManyDigits count)) : Exceeds path characters (.tooManyDigits count)
  | tableNesting (isTables : isDocumentFile path = false)
      (refused : Toml.readDocument Nesting.documentRoom characters = .error .tooDeep) :
      Exceeds path characters .tooDeep

/-- The settings file at a path ends the run. -/
inductive FileInterrupts (tree : Tree) (path : Path) : Interruption → Prop
  | inaccessible {fault : AccessFault} (asked : tree.isFile path = .error fault) :
      FileInterrupts tree path (.inaccessible fault path)
  | undecodable {octets : List UInt8} {fault : Octets.Fault}
      (isFile : tree.isFile path = .ok true) (read : tree.read path = .ok octets)
      (refused : Octets.decodeText octets = .error fault) :
      FileInterrupts tree path (.undecodable fault)
  | exceeding {characters : List Char} {fault : Fault}
      (text : HoldsText tree path characters) (exceeds : Exceeds path characters fault) :
      FileInterrupts tree path (.fault fault)
  | misplacedTools {characters : List Char} {fields : List (String × Value)} {tools : Value}
      (text : HoldsText tree path characters) (reads : ReadsAs path characters (.object fields))
      (isProject : path.name = projectFileName) (given : lookup? toolsKey fields = some tools)
      (isNoTable : tools.isObject = false) :
      FileInterrupts tree path (.fault (.noFields tools.kind))

/-- The fields that the settings file gives, none where the file is rejected. -/
inductive GivesFields (host : Host) (explicit : Option Path) (environment : Environment) :
    List (String × Value) → Prop
  | read {path : Path} {given : List (String × Value)}
      (selected : settingsPath host explicit environment = .ok path)
      (fields : fileFields host.tree path = .ok given) :
      GivesFields host explicit environment given
  | rejected {path : Path} {rejection : Rejection}
      (selected : settingsPath host explicit environment = .ok path)
      (refused : fileFields host.tree path = .error (.refused rejection)) :
      GivesFields host explicit environment []

/-- Loading a configuration ends the run. -/
inductive LoadInterrupts (library : Library) (host : Host) (explicit : Option Path)
    (added : Environment) : Interruption → Prop
  | home {path : Path} {interruption : Interruption}
      (named : namedPath? explicit (host.environment added) = some path)
      (stops : HomeInterrupts host path interruption) :
      LoadInterrupts library host explicit added interruption
  | file {path : Path} {interruption : Interruption}
      (selected : settingsPath host explicit (host.environment added) = .ok path)
      (stops : FileInterrupts host.tree path interruption) :
      LoadInterrupts library host explicit added interruption
  | unsettable {entry : String × String} {fault : VariableFault}
      (isAdded : entry ∈ added.assignments) (cannot : Environment.fault? entry = some fault) :
      LoadInterrupts library host explicit added (.unsettable fault)
  | policyVariable {given : List (String × Value)} {interruption : Interruption}
      (gives : GivesFields host explicit (host.environment added) given)
      (plain : library.arePlain given = true)
      (stops : VariableInterrupts (host.environment added) interruption) :
      LoadInterrupts library host explicit added interruption
  /-- With an option in the file, the library alone knows what it complains of. -/
  | option {given : List (String × Value)} {interruption : Interruption}
      (gives : GivesFields host explicit (host.environment added) given)
      (optional : library.arePlain given = false)
      (stops : library.build sources (host.environment added) given =
        .error (.interrupted interruption)) :
      LoadInterrupts library host explicit added interruption

/-- Read the text of a settings file, in the way that the ending of its path tells. -/
def readFileText (path : Path) (characters : List Char) : LoadM Value :=
  if isDocumentFile path then readDocumentFile path characters
  else readTableFile path characters

theorem readFileText_eq_ok_iff {path : Path} {characters : List Char} {value : Value} :
    readFileText path characters = .ok value ↔ ReadsAs path characters value := by
  constructor
  · intro read
    rw [readFileText] at read
    split at read
    · rename_i isDocument
      rw [readDocumentFile] at read
      split at read <;> cases read
      rename_i accepted
      exact .document isDocument accepted
    · rename_i isTables
      rw [readTableFile] at read
      split at read <;> cases read
      rename_i accepted
      exact .tables (by simpa using isTables) accepted
  · intro reads
    cases reads with
    | document isDocument read => simp [readFileText, isDocument, readDocumentFile, read]
    | tables isTables read => simp [readFileText, isTables, readTableFile, read]

theorem readFileText_interrupted_iff
    {path : Path} {characters : List Char} {interruption : Interruption} :
    readFileText path characters = .error (.interrupted interruption) ↔
      ∃ fault, Exceeds path characters fault ∧ interruption = .fault fault := by
  constructor
  · intro stopped
    rw [readFileText] at stopped
    split at stopped
    · rename_i isDocument
      rw [readDocumentFile] at stopped
      split at stopped <;> cases stopped
      · rename_i refused
        exact ⟨_, .documentDigits isDocument refused, rfl⟩
      · rename_i refused
        exact ⟨_, .documentNesting isDocument refused, rfl⟩
    · rename_i isTables
      rw [Bool.not_eq_true] at isTables
      rw [readTableFile] at stopped
      split at stopped <;> cases stopped
      · rename_i refused
        exact ⟨_, .tableDigits isTables refused, rfl⟩
      · rename_i refused
        exact ⟨_, .tableNesting isTables refused, rfl⟩
  · rintro ⟨fault, exceeds, rfl⟩
    cases exceeds with
    | documentDigits isDocument refused =>
        simp [readFileText, isDocument, readDocumentFile, refused, interrupt]
    | documentNesting isDocument refused =>
        simp [readFileText, isDocument, readDocumentFile, refused, interrupt]
    | tableDigits isTables refused =>
        simp [readFileText, isTables, readTableFile, refused, interrupt]
    | tableNesting isTables refused =>
        simp [readFileText, isTables, readTableFile, refused, interrupt]

theorem settingsPart_interrupted_iff
    {path : Path} {document : Value} {interruption : Interruption} :
    settingsPart path document = .error (.interrupted interruption) ↔
      ∃ fields tools, document = .object fields ∧ path.name = projectFileName ∧
        lookup? toolsKey fields = some tools ∧ tools.isObject = false ∧
        interruption = .fault (.noFields tools.kind) := by
  constructor
  · intro stopped
    rw [settingsPart] at stopped
    split at stopped
    · rename_i isProject
      rw [Bool.and_eq_true, beq_iff_eq] at isProject
      obtain ⟨named, isObject⟩ := isProject
      cases document with
      | object fields =>
          cases given : lookup? toolsKey fields with
          | none => simp [field?, given] at stopped
          | some tools =>
              simp only [field?, given, Option.getD_some] at stopped
              split at stopped
              · cases stopped
              · rename_i isNoTable
                cases stopped
                refine ⟨fields, tools, rfl, named, given, ?_, rfl⟩
                cases tools with
                | object inner => exact absurd rfl (isNoTable inner)
                | null | truth | whole | double | text | moment | list => rfl
      | null | truth | whole | double | text | moment | list => cases isObject
    · cases stopped
  · rintro ⟨fields, tools, rfl, named, given, isNoTable, rfl⟩
    rw [settingsPart, if_pos (by simp [named, isObject]), field?, given, Option.getD_some]
    cases tools with
    | object inner => cases isNoTable
    | null | truth | whole | double | text | moment | list => rfl

/-- What the file at a path gives when it is text. -/
theorem fileFields_of_text
    {tree : Tree} {path : Path} {characters : List Char} (text : HoldsText tree path characters) :
    fileFields tree path = (do
      let document ← readFileText path characters
      match ← settingsPart path document with
      | .object fields => return fields
      | _ => reject (.notTable path)) := by
  rcases text with ⟨isFile, octets, read, decoded⟩
  simp only [fileFields, askPath, isFile, read, decoded, pure, Except.pure, bind, Except.bind,
    if_true, readFileText]
  split <;> rfl

/-- Reading a settings file ends the run exactly where the file is one that does. -/
theorem fileFields_interrupted_iff
    {tree : Tree} {path : Path} {interruption : Interruption} :
    fileFields tree path = .error (.interrupted interruption) ↔
      FileInterrupts tree path interruption := by
  constructor
  · intro stopped
    cases asked : tree.isFile path with
    | error fault =>
        simp only [fileFields, askPath, asked, bind, Except.bind] at stopped
        cases stopped
        exact .inaccessible asked
    | ok isFile =>
        cases isFile with
        | false =>
            simp [fileFields, askPath, asked, bind, Except.bind, pure, Except.pure] at stopped
        | true =>
            rcases (Tree.exists_octets asked).2 with ⟨octets, found⟩
            have read := Tree.read_of_entry found
            cases decoded : Octets.decodeText octets with
            | error fault =>
                simp only [fileFields, askPath, asked, read, decoded, bind, Except.bind, pure,
                  Except.pure, if_true, interrupt] at stopped
                cases stopped
                exact .undecodable asked read decoded
            | ok characters =>
                have text : HoldsText tree path characters := ⟨asked, octets, read, decoded⟩
                rw [fileFields_of_text text, bind_eq_error_iff] at stopped
                rcases stopped with unread | ⟨document, reads, stopped⟩
                · rcases readFileText_interrupted_iff.mp unread with ⟨fault, exceeds, rfl⟩
                  exact .exceeding text exceeds
                · rw [bind_eq_error_iff] at stopped
                  rcases stopped with misplaced | ⟨part, _, stopped⟩
                  · rcases settingsPart_interrupted_iff.mp misplaced with
                      ⟨fields, tools, rfl, isProject, given, isNoTable, rfl⟩
                    exact .misplacedTools text (readFileText_eq_ok_iff.mp reads) isProject given
                      isNoTable
                  · split at stopped <;> cases stopped
  · intro interrupts
    cases interrupts with
    | inaccessible asked => simp [fileFields, askPath, asked, bind, Except.bind]
    | undecodable isFile read refused =>
        simp [fileFields, askPath, isFile, read, refused, bind, Except.bind, pure, Except.pure,
          interrupt]
    | exceeding text exceeds =>
        have unread := readFileText_interrupted_iff.mpr ⟨_, exceeds, rfl⟩
        rw [fileFields_of_text text, bind_eq_error_iff]
        exact .inl unread
    | misplacedTools text reads isProject given isNoTable =>
        have misplaced := settingsPart_interrupted_iff.mpr
          ⟨_, _, rfl, isProject, given, isNoTable, rfl⟩
        rw [fileFields_of_text text, readFileText_eq_ok_iff.mpr reads, bind_eq_error_iff]
        exact .inr ⟨_, rfl, bind_eq_error_iff.mpr (.inl misplaced)⟩

/-- Following a tilde ends the run exactly where the path is one that does. -/
theorem expand_eq_error_iff {host : Host} {path : Path} {interruption : Interruption} :
    host.expand path = .error interruption ↔ HomeInterrupts host path interruption := by
  constructor
  · intro stopped
    obtain ⟨root, parts⟩ := path
    rw [Host.expand] at stopped
    split at stopped
    · rename_i first rest isRelative hasFirst
      cases isRelative
      cases hasFirst
      split at stopped
      · cases stopped
      · rename_i sign name starts
        split at stopped
        · cases stopped
        · rename_i isSign
          rw [bne_iff_ne, not_not] at isSign
          subst isSign
          split at stopped
          · rename_i isUnusable
            cases stopped
            exact .unusable starts (List.contains_iff_mem.mp isUnusable)
          · rename_i isUsable
            rw [List.contains_iff_mem] at isUsable
            split at stopped
            · rename_i absent
              cases stopped
              exact .unknown starts isUsable absent
            · rename_i home found
              split at stopped
              · rename_i isBehind
                cases stopped
                exact .circular starts isUsable found (beq_iff_eq.mp isBehind)
              · cases stopped
    · cases stopped
  · intro interrupts
    cases interrupts with
    | unusable starts isUnusable => simp [Host.expand, starts, isUnusable]
    | unknown starts isUsable absent => simp [Host.expand, starts, isUsable, absent]
    | circular starts isUsable found isBehind =>
        simp [Host.expand, starts, isUsable, found, isBehind]

theorem settingsPath_eq_error_iff
    {host : Host} {explicit : Option Path} {environment : Environment}
    {interruption : Interruption} :
    settingsPath host explicit environment = .error interruption ↔
      ∃ path, namedPath? explicit environment = some path ∧
        HomeInterrupts host path interruption := by
  rw [settingsPath]
  cases namedPath? explicit environment with
  | none => simp
  | some path => simp [expand_eq_error_iff]

/-- The settings library ends the run on account of variables or of options. -/
theorem build_interrupted_iff
    {library : Library} (documented : library.Documented) {environment : Environment}
    {given : List (String × Value)} {interruption : Interruption} :
    library.build sources environment given = .error (.interrupted interruption) ↔
      library.arePlain given = true ∧ VariableInterrupts environment interruption ∨
        library.arePlain given = false ∧
          library.build sources environment given = .error (.interrupted interruption) := by
  cases plain : library.arePlain given with
  | false => simp
  | true =>
      rw [build_eq_of_plain documented environment plain, ← documented.stops]
      cases library.variableLayer environment with
      | error stopped => simp
      | ok upper =>
          cases validated : library.validate (library.merge (library.givenLayer given) upper) <;>
            simp [validated, Except.mapError]

theorem exists_assembled_iff
    {library : Library} {path : Path} {environment added : Environment} {isLoaded : Bool}
    {rejection : Option Rejection} {given : List (String × Value)} :
    (∃ configuration, assemble library path environment added isLoaded rejection given =
        .ok configuration) ↔
      added.firstFault? = none ∧ ∀ interruption,
        library.build sources environment given ≠ .error (.interrupted interruption) := by
  rw [assemble]
  cases added.firstFault? with
  | some fault => simp
  | none =>
      cases library.build sources environment given with
      | ok draft => simp
      | error setback => cases setback <;> simp

theorem GivesFields.unique
    {host : Host} {explicit : Option Path} {environment : Environment}
    {given other : List (String × Value)} (gives : GivesFields host explicit environment given)
    (givesOther : GivesFields host explicit environment other) : other = given := by
  cases gives with
  | read selected fields =>
      cases givesOther with
      | read otherSelected otherFields =>
          cases otherSelected.symm.trans selected
          cases otherFields.symm.trans fields
          rfl
      | rejected otherSelected refused =>
          cases otherSelected.symm.trans selected
          cases refused.symm.trans fields
  | rejected selected refused =>
      cases givesOther with
      | read otherSelected otherFields =>
          cases otherSelected.symm.trans selected
          cases otherFields.symm.trans refused
      | rejected _ _ => rfl

/-- Where a file gives fields, only added variables and the settings library can end the run. -/
theorem uninterrupted_iff_of_gives
    {library : Library} (documented : library.Documented) {host : Host} {explicit : Option Path}
    {added : Environment} {given : List (String × Value)}
    (gives : GivesFields host explicit (host.environment added) given) :
    (∀ interruption, ¬ LoadInterrupts library host explicit added interruption) ↔
      added.firstFault? = none ∧ ∀ interruption,
        library.build sources (host.environment added) given ≠
          .error (.interrupted interruption) := by
  constructor
  · intro uninterrupted
    constructor
    · rw [Environment.firstFault?, List.findSome?_eq_none_iff]
      intro entry isAdded
      cases cannot : Environment.fault? entry with
      | none => rfl
      | some fault => exact absurd (.unsettable isAdded cannot) (uninterrupted _)
    · intro interruption stopped
      rcases (build_interrupted_iff documented).mp stopped with ⟨plain, stops⟩ | ⟨optional, stops⟩
      · exact uninterrupted _ (.policyVariable gives plain stops)
      · exact uninterrupted _ (.option gives optional stops)
  · rintro ⟨settable, unstopped⟩ interruption interrupts
    cases interrupts with
    | home named stops =>
        have stopped := settingsPath_eq_error_iff.mpr ⟨_, named, stops⟩
        cases gives with
        | read selected _ => cases stopped.symm.trans selected
        | rejected selected _ => cases stopped.symm.trans selected
    | file selected stops =>
        have stopped := fileFields_interrupted_iff.mpr stops
        cases gives with
        | read otherSelected fields =>
            cases otherSelected.symm.trans selected
            cases stopped.symm.trans fields
        | rejected otherSelected refused =>
            cases otherSelected.symm.trans selected
            cases stopped.symm.trans refused
    | unsettable isAdded cannot =>
        rw [Environment.firstFault?, List.findSome?_eq_none_iff] at settable
        rw [settable _ isAdded] at cannot
        cases cannot
    | policyVariable givesOther plain stops =>
        cases gives.unique givesOther
        exact unstopped _ ((build_interrupted_iff documented).mpr (.inl ⟨plain, stops⟩))
    | option givesOther optional stops =>
        cases gives.unique givesOther
        exact unstopped _ stops

/-- Loading returns a configuration exactly when nothing ends the run. -/
theorem exists_configuration_iff
    {library : Library} (documented : library.Documented) (host : Host) (explicit : Option Path)
    (added : Environment) :
    (∃ configuration, loadConfiguration library host explicit added = .ok configuration) ↔
      ∀ interruption, ¬ LoadInterrupts library host explicit added interruption := by
  rw [loadConfiguration]
  cases selected : settingsPath host explicit (host.environment added) with
  | error interruption =>
      rcases settingsPath_eq_error_iff.mp selected with ⟨path, named, stops⟩
      simp only [bind, Except.bind, reduceCtorEq, exists_false, false_iff, not_forall, not_not]
      exact ⟨interruption, .home named stops⟩
  | ok path =>
      simp only [bind, Except.bind]
      cases fileRead : fileFields host.tree path with
      | error setback =>
          cases setback with
          | interrupted interruption =>
              have interrupts : LoadInterrupts library host explicit added interruption :=
                .file selected (fileFields_interrupted_iff.mp fileRead)
              simp only [reduceCtorEq, exists_false, false_iff, not_forall, not_not]
              exact ⟨interruption, interrupts⟩
          | refused rejection =>
              rw [uninterrupted_iff_of_gives documented (.rejected selected fileRead)]
              exact exists_assembled_iff
      | ok given =>
          rw [uninterrupted_iff_of_gives documented (.read selected fileRead)]
          cases asked : host.tree.isFile path with
          | error fault =>
              have stopped := fileFields_interrupted_iff.mpr (.inaccessible asked)
              cases stopped.symm.trans fileRead
          | ok isLoaded => exact exists_assembled_iff

/-! ## Safe mode -/

/-- A variable of an environment has this value for a setting. -/
inductive Environment.Provides (environment : Environment) : SettingKey → Value → Prop
  /-- The variable of a setting outside the policy, by its name in any letter case. -/
  | plain {field : PlainField} {name content : String}
      (assigned : (name, content) ∈ environment.assignments)
      (named : LetterCase.lowered name = settingName field.name) :
      Provides environment (.plain field) (.text content)
  /-- A variable for the policy or for a part of it, by either name of the field. -/
  | policy {field : PolicyField} {key : String} {value : Value}
      (offered : environment.Offers key value)
      (spelled : key = field.alternate ∨ key = field.name) :
      Provides environment (.policy field) value

section SafeMode

variable {library : Library} (documented : library.Documented)
include documented

/-- A value of the policy of the variables that a setting follows is from a variable. -/
theorem provides_of_followed
    {settings : Settings Float} {environment : Environment} {upper fields : List (String × Value)}
    (layer : IsVariableLayer environment upper)
    (policy : lookup? policyKey upper = some (.object fields))
    {field : PolicyField} {key : String} (spelled : key = field.alternate ∨ key = field.name)
    {value : Value} (found : lookup? key fields = some value)
    (follows : settings.Follows library (some value) (.policy field)) :
    environment.Provides (.policy field) value := by
  rcases layer.offered fields policy field key spelled value found with isObject | offered
  · have plain := documented.refuses _ _ _ follows
    rw [isObject] at plain
    cases plain
  · exact .policy offered spelled

/-- Without fields of a file there is nothing below the variables. -/
theorem lookup?_givenLayer_nil {name : String} (member : name ∈ topNames) :
    lookup? name (library.givenLayer []) = none := by
  cases found : lookup? name (library.givenLayer []) with
  | none => rfl
  | some value =>
      rcases documented.given _ _ member _ found with ⟨key, listed, _⟩
      cases listed

/-- A setting that follows the variables alone is standard or follows a variable. -/
theorem standard_or_provided
    {settings : Settings Float} {environment : Environment} {upper : List (String × Value)}
    (layer : IsVariableLayer environment upper) {key : SettingKey}
    (follows : settings.Follows library (settingSource? (library.givenLayer []) upper key) key) :
    settings.Follows library none key ∨
      ∃ value, environment.Provides key value ∧ settings.Follows library (some value) key := by
  cases key with
  | plain field =>
      have member : field.name ∈ topNames := by
        cases field <;> decide
      rw [settingSource?, lookup?_givenLayer_nil documented member, Option.or_none,
        layer.plain field] at follows
      cases given : environment.lowered.value? (Environment.settingName field.name) with
      | none =>
          rw [given] at follows
          exact .inl follows
      | some content =>
          rw [given] at follows
          rcases Environment.exists_assigned_of_value? given with ⟨name, assigned, named⟩
          exact .inr ⟨.text content, .plain assigned named, follows⟩
  | policy field =>
      rw [settingSource?, lookup?_givenLayer_nil documented List.mem_cons_self] at follows
      have source : policySource? .null ((lookup? policyKey upper).getD .null) field =
          (((lookup? policyKey upper).getD .null).field? field.alternate).or
            (((lookup? policyKey upper).getD .null).field? field.name) := by
        simp [policySource?, field?]
      rw [Option.getD_none, source] at follows
      cases policy : lookup? policyKey upper with
      | none =>
          rw [policy] at follows
          exact .inl follows
      | some value =>
          rw [policy, Option.getD_some] at follows
          cases value with
          | null | truth | whole | double | text | moment | list => exact .inl follows
          | object fields =>
              rw [field?, field?] at follows
              cases alternate : lookup? field.alternate fields with
              | some value =>
                  rw [alternate] at follows
                  exact .inr ⟨value, provides_of_followed documented layer policy (.inl rfl)
                    alternate follows, follows⟩
              | none =>
                  rw [alternate, Option.none_or] at follows
                  cases named : lookup? field.name fields with
                  | some value =>
                      rw [named] at follows
                      exact .inr ⟨value, provides_of_followed documented layer policy (.inr rfl)
                        named follows, follows⟩
                  | none =>
                      rw [named] at follows
                      exact .inl follows

end SafeMode

/-- Settings about which nothing is said are standard. -/
theorem SettingsDraft.empty_follows (library : Library) (key : SettingKey) :
    SettingsDraft.empty.complete.Follows library none key := by
  match key with
  | .policy field => cases field <;> rfl
  | .plain field => cases field <;> rfl

/-- With a rejection, what is given is built from the variables alone, if from anything. -/
theorem given_of_rejected
    {library : Library} {host : Host} {explicit : Option Path} {added : Environment}
    {configuration : Configuration}
    (loaded : loadConfiguration library host explicit added = .ok configuration)
    (rejected : configuration.rejection ≠ none) :
    configuration.given = .empty ∨
      library.build sources (host.environment added) [] = .ok configuration.given := by
  rw [loadConfiguration, bind_eq_ok_iff] at loaded
  rcases loaded with ⟨path, selected, loaded⟩
  split at loaded
  · cases loaded
  · rcases assembled_cases loaded with ⟨_, ⟨_, built⟩ | ⟨_, isEmpty⟩⟩
    · exact .inr built
    · exact .inl isEmpty
  · split at loaded
    · cases loaded
    · -- The file was understood, so only unusable settings account for the rejection.
      rcases assembled_cases loaded with ⟨_, ⟨accepted, _⟩ | ⟨_, isEmpty⟩⟩
      · exact absurd accepted rejected
      · exact .inl isEmpty

/--
Loading returns a configuration exactly when nothing that is listed ends the run, and with
a rejection every setting is standard or follows a variable.
-/
theorem configurations_load_unless_interrupted
    (library : Library) (documented : library.Documented)
    (host : Host) (explicit : Option Path) (added : Environment) :
    ((∃ configuration, loadConfiguration library host explicit added = .ok configuration) ↔
      ∀ interruption, ¬ LoadInterrupts library host explicit added interruption) ∧
    ∀ configuration, loadConfiguration library host explicit added = .ok configuration →
      configuration.rejection ≠ none →
        ∀ key, configuration.settings.Follows library none key ∨
          ∃ value, (host.environment added).Provides key value ∧
            configuration.settings.Follows library (some value) key := by
  refine ⟨exists_configuration_iff documented host explicit added, ?_⟩
  intro configuration loaded rejected key
  rcases given_of_rejected loaded rejected with isEmpty | built
  · left
    rw [Configuration.settings, isEmpty]
    exact SettingsDraft.empty_follows library key
  · rcases exists_variableLayer_of_build documented rfl built with ⟨upper, layered, validated⟩
    have layer := documented.gives _ _ layered
    exact standard_or_provided documented layer
      (follows_of_validate documented layer validated key)

/-- A host with a settings file that breaks off after its first key. -/
def brokenHost : Host :=
  hostWith "\x7b\"policy\":"

/-- With a broken file the depth is that of the variable, and nothing ends the run. -/
theorem brokenFile_leaves_the_variable :
    (∀ interruption,
      ¬ LoadInterrupts .builtIn brokenHost (some depthPath) threeDeep interruption) ∧
    ∃ configuration,
      loadConfiguration .builtIn brokenHost (some depthPath) threeDeep = .ok configuration ∧
        configuration.rejection ≠ none ∧
        configuration.settings.policy.entryDepth = 3 ∧
        (brokenHost.environment threeDeep).Provides (.policy .entryDepth) (.text "3") ∧
        ∀ key, configuration.settings.Follows .builtIn none key ∨
          ∃ value, (brokenHost.environment threeDeep).Provides key value ∧
            configuration.settings.Follows .builtIn (some value) key := by
  have loaded : ((loadConfiguration .builtIn brokenHost (some depthPath)
      threeDeep).toOption.any fun configuration => configuration.rejection.isSome &&
        configuration.settings.policy.entryDepth == 3) = true := by
    decide +kernel
  have provided :
      (brokenHost.environment threeDeep).Provides (.policy .entryDepth) (.text "3") := by
    have leads : Environment.policyPath? (LetterCase.lowered "IANITOR_POLICY__ENTRY_DEPTH") =
        some ["entry_depth"] := by
      decide +kernel
    exact .policy (.part List.mem_cons_self leads rfl) (.inr rfl)
  rcases exists_ok_of_any loaded with ⟨configuration, loaded, checked⟩
  rw [Bool.and_eq_true, Option.isSome_iff_ne_none, beq_iff_eq] at checked
  rcases configurations_load_unless_interrupted .builtIn Library.builtIn_documented brokenHost
    (some depthPath) threeDeep with ⟨returns, safe⟩
  exact ⟨returns.mp ⟨configuration, loaded⟩, configuration, loaded, checked.1, checked.2, provided,
    safe configuration loaded checked.1⟩

/-- The project file of the example. -/
def projectPath : Path :=
  ⟨.relative, [projectFileName]⟩

/-- A host with a project file whose tools are the given value. -/
def toolsHost (tools : String) : Host :=
  ⟨⟨[(projectPath, .file ("tool = " ++ tools ++ "\n").toUTF8.toList)]⟩, .empty, .nobody⟩

/-- A project file whose tools are a number ends the run. -/
theorem numericTools_end_the_run :
    (toolsHost "5").tree.isFile projectPath = .ok true ∧
      ∃ interruption,
        loadConfiguration .builtIn (toolsHost "5") (some projectPath) .empty =
            .error interruption ∧
          interruption.message = "'int' object has no attribute 'get'" := by
  refine ⟨rfl, ?_⟩
  have stopped :
      (match loadConfiguration .builtIn (toolsHost "5") (some projectPath) .empty with
      | .error interruption => interruption.message == "'int' object has no attribute 'get'"
      | .ok _ => false) = true := by
    decide +kernel
  split at stopped
  · rename_i interruption loaded
    exact ⟨interruption, loaded, beq_iff_eq.mp stopped⟩
  · cases stopped

/-- So does one whose tools are a date. -/
example :
    (match loadConfiguration .builtIn (toolsHost "1979-05-27") (some projectPath) .empty with
    | .error interruption => interruption.message
    | .ok _ => "") = "'datetime.date' object has no attribute 'get'" := by
  decide +kernel

end TypeGauge.Setup
