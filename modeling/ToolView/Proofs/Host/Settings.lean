import Mathlib
import ToolView.Host.Config
import ToolView.Proofs.Json.Wording

/-! The settings of a host are saved and loaded without loss. What is loaded is fit for use: a
sandbox on the web, and a mode to begin with. How the text is worded makes no difference, but for an
object that spells a display mode, which has no room for another member. -/

namespace ToolView

open Json (Draft)

namespace Json

/-- The value is an object with these members, in some order. -/
def Holds (json : Json) (ms : List (String × Option Json)) : Prop :=
  ∃ es, json = .obj es ∧ (es.map (·.1)).Nodup ∧
    ∀ key, Entries.get? key es = (Entries.get? key ms).join

theorem holds_inOrder {ms : List (String × Option Json)} (distinct : (ms.map (·.1)).Nodup) :
    (inOrder ms).Holds ms :=
  ⟨_,rfl,distinct.sublist (keys_sublist ms),get?_filterMap ms distinct⟩

theorem holds_record {ms : List (String × Option Json)} (distinct : (ms.map (·.1)).Nodup) :
    (record ms).Holds ms :=
  ⟨_,rfl,(members ms).nodup_keys,get?_members ms distinct⟩

theorem keyed_draft (json : Json) : json.draft.Keyed := by
  cases json <;> exact nofun

private theorem keyed_of_mem {es : List (String × Json)} {m : String × Draft}
    (member : m ∈ draftOfMembers es) : m.2.Keyed ∧ m.2.isWhole = true := by
  induction es with
  | nil => cases member
  | cons e es ih =>
    rcases List.mem_cons.mp member with rfl | later
    · exact ⟨keyed_draft e.2,isWhole_draft e.2⟩
    · exact ih later

namespace Holds

variable {json : Json} {ms : List (String × Option Json)}

theorem given (holds : json.Holds ms) (place : ℕ) (name : String) :
    json.draft.given place name = ((Entries.get? name ms).join.map draft).toList := by
  obtain ⟨es,rfl,distinct,found⟩ := holds
  have keys : ((draftOfMembers es).map (·.1)).Nodup := by
    rw [keys_draft]
    exact distinct
  change Draft.held name (draftOfMembers es) = _
  rw [Draft.held_of_distinct keys,get?_draft,found]

theorem ungiven (holds : json.Holds ms) {α : Type} (absent short : Option α) :
    json.draft.ungiven absent short = absent := by
  obtain ⟨es,rfl,-,-⟩ := holds
  rfl

theorem closed (holds : json.Holds ms) (names : List String) : json.draft.Closed names := by
  obtain ⟨es,rfl,-,-⟩ := holds
  intro m member
  obtain ⟨keyed,whole⟩ := keyed_of_mem member
  exact ⟨keyed,.inr whole⟩

end Holds

end Json

/-- The fields, of which the first stands in this place, give this value; they keep their order. -/
structure Fields.Gives {α : Type} (fields : Fields Draft α) (place : ℕ) (draft : Draft) (value : α) :
    Prop where
  orderly : fields.Orderly
  yields : fields.Yields place draft value

namespace Fields.Gives

variable {α β : Type} {draft : Draft} {place : ℕ} {json : Json} {ms : List (String × Option Json)}
  {name : String} {decode : Draft → Except DecodeError α} {absent short : Option α}

theorem map {fields : Fields Draft α} {value : α} (gives : fields.Gives place draft value)
    (f : α → β) : (f <$> fields).Gives place draft (f value) :=
  ⟨gives.orderly.map f,yields_map.mpr ⟨value,gives.yields,rfl⟩⟩

theorem seq {function : Fields Draft (α → β)} {fields : Fields Draft α} {f : α → β} {value : α}
    (first : function.Gives place draft f)
    (second : fields.Gives (place + function.names.length) draft value) :
    (function <*> fields).Gives place draft (f value) where
  orderly := first.orderly.seq second.orderly
  yields := (yields_seq first.orderly).mpr ⟨f,value,first.yields,second.yields,rfl⟩

theorem present (holds : json.Holds ms) {part : Json} {value : α}
    (found : Entries.get? name ms = some (some part)) (decodes : decode part.draft = .ok value) :
    (Fields.field name decode absent short).Gives place json.draft value := by
  refine ⟨.field,yields_field.mpr (.inr ⟨part.draft,?_,decodes⟩)⟩
  rw [holds.given,found]
  rfl

/-- A text that may be left out is read as it was, or left out. -/
theorem text (holds : json.Holds ms) {value : Option String}
    (found : Entries.get? name ms = some (value.map .str)) :
    (Fields.withDefault name (Decode.optional Decode.string) none).Gives place json.draft value := by
  cases value with
  | none =>
    refine ⟨.field,yields_field.mpr (.inl ⟨?_,holds.ungiven _ _⟩)⟩
    rw [holds.given,found]
    rfl
  | some text => exact present holds found rfl

theorem record {fields : Fields Draft α} {value : α} (gives : fields.Gives 0 json.draft value)
    (holds : json.Holds ms) (type : String) : Decode.record type fields json.draft = .ok value :=
  (record_eq_ok gives.orderly).mpr ⟨holds.closed _,gives.yields⟩

end Fields.Gives

/-- What is written one by one is read as it was. -/
theorem Decode.list_draft {α : Type} {encode : α → Json} {decode : Draft → Except DecodeError α}
    (back : ∀ value, decode (encode value).draft = .ok value) (values : List α) :
    Decode.list decode (Json.arr (values.map encode)).draft = .ok values := by
  change (Json.draftOfItems (values.map encode)).mapM decode = .ok values
  rw [mapM_eq_ok]
  induction values with
  | nil => exact .nil
  | cons value values ih => exact .cons (back value) ih

theorem DisplayMode.decode_draft (m : DisplayMode) : decode m.encode.draft = .ok m := by
  cases m <;> rfl

theorem Outline.Suits.url (outline : Outline) : outline.Suits (Decode.url : Draft → _) := by
  intro draft other edit value
  cases edit.paired <;> exact ⟨nofun,nofun⟩

namespace Bridge.AppInfo

def members (i : AppInfo) : List (String × Option Json) :=
  [("name",some (.str i.name)),("version",some (.str i.version))]

theorem distinct (i : AppInfo) : (i.members.map (·.1)).Nodup := by
  simp [members]

def outlines : List (String × Outline) := [("name",.plain),("version",.plain)]

theorem suits : (fields : Fields Draft AppInfo).Suits outlines :=
  .seq (.map (.field (.string _) _ _) mk) (.field (.string _) _ _)

theorem decode_draft {json : Json} {i : AppInfo} (holds : json.Holds i.members) :
    decode json.draft = .ok i := by
  refine Fields.Gives.record (.seq (.map ?_ mk) ?_) holds "AppInfo"
  · exact .present holds rfl rfl
  · exact .present holds rfl rfl

end Bridge.AppInfo

namespace SandboxConfig

def members (c : SandboxConfig) : List (String × Option Json) :=
  [("url",some (.str c.url.write)),("sandboxTokens",some (.strings c.sandboxTokens)),
    ("permissionsPolicy",c.permissionsPolicy.map .str)]

theorem distinct (c : SandboxConfig) : (c.members.map (·.1)).Nodup := by
  simp [members]

def outlines : List (String × Outline) :=
  [("url",.plain),("sandboxTokens",.list .plain),("permissionsPolicy",.plain)]

theorem suits : (fields : Fields Draft SandboxConfig).Suits outlines := by
  refine .seq (.seq (.map (.field ?_ _ _) mk) (.field ?_ _ _)) (.field ?_ _ _)
  · exact .url _
  · exact .list (.string _)
  · exact .optional (.string _)

theorem decode_draft {json : Json} {c : SandboxConfig} (holds : json.Holds c.members)
    (stable : Url.parse c.url.write = .ok c.url) : decode json.draft = .ok c := by
  have address : Decode.url (Json.str c.url.write).draft = .ok c.url := by
    simp [Decode.url,Json.draft,Tree.shape,bind,Except.bind,pure,Except.pure,stable]
  have tokens : Decode.list Decode.string (Json.strings c.sandboxTokens).draft =
      .ok c.sandboxTokens := Decode.list_draft (fun _ => rfl) c.sandboxTokens
  refine Fields.Gives.record (.seq (.seq (.map ?_ mk) ?_) ?_) holds "SandboxConfig"
  · exact .present holds rfl address
  · exact .present holds rfl tokens
  · exact .text holds rfl

end SandboxConfig

namespace HostConfig

def membersWith (form : List (String × Option Json) → Json) (c : HostConfig) :
    List (String × Option Json) :=
  [("hostInfo",some (form c.hostInfo.members)),("protocolVersion",some (.str c.protocolVersion)),
    ("theme",c.theme.map .str),("locale",c.locale.map .str),("timeZone",c.timeZone.map .str),
    ("platform",c.platform.map .str),
    ("displayModes",some (.arr (c.displayModes.map DisplayMode.encode))),
    ("sandbox",some (form c.sandbox.members))]

/-- The settings with the members of every object in the order of their declaration. -/
def declared (c : HostConfig) : Json := .inOrder (c.membersWith .inOrder)

theorem distinct (form : List (String × Option Json) → Json) (c : HostConfig) :
    ((c.membersWith form).map (·.1)).Nodup := by
  simp [membersWith]

def outlines (mode : Outline) : List (String × Outline) :=
  [("hostInfo",.record Bridge.AppInfo.outlines),("protocolVersion",.plain),("theme",.plain),
    ("locale",.plain),("timeZone",.plain),("platform",.plain),("displayModes",.list mode),
    ("sandbox",.record SandboxConfig.outlines)]

def modeOutline : Outline := .name (DisplayMode.names.map (·.1))

def outline : Outline := .record (outlines modeOutline)

theorem suits : (fields : Fields Draft HostConfig).Suits (outlines modeOutline) := by
  refine .seq (.seq (.seq (.seq (.seq (.seq (.seq (.map (.field ?_ _ _) mk) (.field ?_ _ _))
    (.field ?_ _ _)) (.field ?_ _ _)) (.field ?_ _ _)) (.field ?_ _ _)) (.field ?_ _ _))
    (.field ?_ _ _)
  · exact .record (by decide) Bridge.AppInfo.suits "AppInfo"
  · exact .string _
  · exact .optional (.string _)
  · exact .optional (.string _)
  · exact .optional (.string _)
  · exact .optional (.string _)
  · exact .list (.name _)
  · exact .record (by decide) SandboxConfig.suits "SandboxConfig"

theorem decode_draft {form : List (String × Option Json) → Json}
    (faithful : ∀ {ms : List (String × Option Json)}, (ms.map (·.1)).Nodup → (form ms).Holds ms)
    {c : HostConfig} (stable : Url.parse c.sandbox.url.write = .ok c.sandbox.url) :
    decode (form (c.membersWith form)).draft = .ok c := by
  have holds : (form (c.membersWith form)).Holds (c.membersWith form) := faithful (c.distinct form)
  have host := Bridge.AppInfo.decode_draft (faithful c.hostInfo.distinct)
  have sandbox := SandboxConfig.decode_draft (faithful c.sandbox.distinct) stable
  have modes := Decode.list_draft DisplayMode.decode_draft c.displayModes
  refine Fields.Gives.record (.seq (.seq (.seq (.seq (.seq (.seq (.seq (.map ?_ mk) ?_) ?_) ?_) ?_)
    ?_) ?_) ?_) holds "HostConfig"
  · exact .present holds rfl host
  · exact .present holds rfl rfl
  · exact .text holds rfl
  · exact .text holds rfl
  · exact .text holds rfl
  · exact .text holds rfl
  · exact .present holds rfl modes
  · exact .present holds rfl sandbox

private theorem ofChars_eq_ok {chars : List Char} {c : HostConfig} : ofChars chars = .ok c ↔
    decode (Draft.read chars).1 = .ok c ∧ (Draft.read chars).2 = false := by
  change (decode (Draft.read chars).1 >>= fun config =>
    if (Draft.read chars).2 then .error .malformed else .ok config) = _ ↔ _
  cases decode (Draft.read chars).1 with
  | error e => exact ⟨nofun,fun read => nomatch read.1⟩
  | ok given => cases (Draft.read chars).2 <;> simp [bind,Except.bind]

theorem validate_eq_ok {c : HostConfig} :
    c.validate = .ok () ↔ c.sandbox.url.scheme ∈ ["http","https"] ∧ c.displayModes ≠ [] := by
  change (c.sandbox.validate >>= fun _ =>
    if c.displayModes.isEmpty then .error (.config "displayModes must not be empty") else .ok ()) = _ ↔ _
  rw [SandboxConfig.validate]
  by_cases web : c.sandbox.url.scheme = "http" ∨ c.sandbox.url.scheme = "https"
  · rw [if_pos web]
    cases c.displayModes <;> simp [bind,Except.bind,web]
  · rw [if_neg web]
    simp [bind,Except.bind,web]

theorem ofText_eq_ok {text : String} {c : HostConfig} : ofText text = .ok c ↔
    (decode (Draft.read text.toList).1 = .ok c ∧ (Draft.read text.toList).2 = false) ∧
      c.sandbox.url.scheme ∈ ["http","https"] ∧ c.displayModes ≠ [] := by
  rw [← ofChars_eq_ok,← validate_eq_ok]
  change ((ofChars text.toList).mapError (fun e => .json e.message) >>= fun config =>
    config.validate >>= fun _ => .ok config) = .ok c ↔ _
  cases ofChars text.toList with
  | error e => exact ⟨nofun,nofun⟩
  | ok given =>
    change (given.validate >>= fun _ => .ok given) = .ok c ↔ _
    constructor
    · intro read
      obtain ⟨_,valid,same⟩ := ok_of_bind read
      cases same
      exact ⟨rfl,valid⟩
    · rintro ⟨same,valid⟩
      cases same
      rw [valid]
      rfl

/-- A value is loaded from its own text as it is from its draft. -/
theorem ofText_write {json : Json} {c : HostConfig} (read : decode json.draft = .ok c)
    (web : c.sandbox.url.scheme ∈ ["http","https"]) (some : c.displayModes ≠ []) :
    ofText json.write = .ok c := by
  rw [ofText_eq_ok,Json.write,String.toList_ofList,Draft.read_writeChars]
  exact ⟨⟨read,rfl⟩,web,some⟩

/-- Settings with a sandbox on the web and with some mode are loaded from their text as they were,
whichever order their members are written in, so long as the address of the sandbox is read as it is
written. All settings that are loaded have such a sandbox, and begin in a mode that they offer. Two
texts that differ in the order of members, or in members that nobody asks for, are the same settings
or are both refused; an object that spells a display mode has no room for such a member. -/
theorem settings_survive :
    (∀ c : HostConfig, c.displayModes ≠ [] → c.sandbox.url.scheme ∈ ["http","https"] →
      Url.parse c.sandbox.url.write = .ok c.sandbox.url →
        ofText c.declared.write = .ok c ∧ ofText c.encode.write = .ok c) ∧
    (∀ (text : String) (c : HostConfig), ofText text = .ok c →
      c.sandbox.url.scheme ∈ ["http","https"] ∧ c.displayModes ≠ [] ∧
        c.initialDisplayMode ∈ c.displayModes) ∧
    ∀ (text other : String), Json.Reworded outline text other →
      ∀ c, ofText text = .ok c ↔ ofText other = .ok c := by
  refine ⟨fun c some web stable => ⟨?_,?_⟩,fun text c read => ?_,fun text other reworded c => ?_⟩
  · exact ofText_write (decode_draft Json.holds_inOrder stable) web some
  · exact ofText_write (decode_draft Json.holds_record stable) web some
  · obtain ⟨-,web,some⟩ := ofText_eq_ok.mp read
    exact ⟨web,some,initialDisplayMode_mem some⟩
  · obtain ⟨rewords,ended⟩ := reworded
    have suits : outline.Suits (decode : Draft → _) := .record (by decide) suits "HostConfig"
    rw [ofText_eq_ok,ofText_eq_ok,suits.rewords rewords,ended]

namespace Sample

def config : HostConfig where
  hostInfo := ⟨"the \"host\"","1.0"⟩
  protocolVersion := ""
  theme := some ""
  locale := none
  timeZone := none
  platform := none
  displayModes := [.pip,.inline]
  sandbox := ⟨⟨"https","",none,some (.domain "sandbox.example"),none,.segments [""],none,none⟩,[],none⟩

def entries : List (String × Json) :=
  (config.membersWith .inOrder).filterMap fun m => m.2.map (m.1,·)

def reworded : Json := .obj (("note",.arr [.null]) :: entries.reverse)

theorem rewords : config.declared.draft.Rewords outline reworded.draft := by
  have turned : Json.draftOfMembers entries.reverse = (Json.draftOfMembers entries).reverse := rfl
  have order : Draft.Edit outline (.obj (Json.draftOfMembers entries))
      (.obj (Json.draftOfMembers entries.reverse)) := by
    rw [turned]
    exact .order (List.reverse_perm _).symm
  have foreign : "note" ∉ (outlines modeOutline).map (·.1) := by decide
  have extra : Draft.Edit outline (.obj (Json.draftOfMembers entries.reverse)) reworded.draft :=
    .extra foreign rfl nofun
  exact (Relation.EqvGen.rel _ _ order).trans _ _ _ (.rel _ _ extra)

end Sample

theorem settings_survive_sample :
    Sample.config.displayModes ≠ [] ∧ Sample.config.sandbox.url.scheme ∈ ["http","https"] ∧
      Url.parse Sample.config.sandbox.url.write = .ok Sample.config.sandbox.url ∧
      ofText Sample.config.declared.write = .ok Sample.config ∧
      ofText Sample.config.encode.write = .ok Sample.config ∧
      Sample.config.initialDisplayMode ∈ Sample.config.displayModes ∧
      Json.Reworded outline Sample.config.declared.write Sample.reworded.write ∧
      ofText Sample.reworded.write = .ok Sample.config := by
  obtain ⟨kept,fit,alike⟩ := settings_survive
  have some : Sample.config.displayModes ≠ [] := by decide
  have web : Sample.config.sandbox.url.scheme ∈ ["http","https"] := by decide
  have stable : Url.parse Sample.config.sandbox.url.write = .ok Sample.config.sandbox.url := by
    decide +kernel
  obtain ⟨declared,sorted⟩ := kept Sample.config some web stable
  obtain ⟨-,-,initial⟩ := fit _ _ declared
  have reworded := Json.reworded_write Sample.rewords
  have loaded := (alike _ _ reworded Sample.config).mp declared
  exact ⟨some,web,stable,declared,sorted,initial,reworded,loaded⟩

/-- What would be read of settings if an object that spells a display mode were a record, with the
modes for its fields. -/
def looseOutline : Outline :=
  .record (outlines (.record (DisplayMode.names.map fun m => (m.1,.plain))))

def Sample.offering (mode : Json) : Json :=
  .obj [("displayModes",.arr [mode]),
    ("hostInfo",.obj [("name",.str "host"),("version",.str "1.0")]),
    ("sandbox",.obj [("url",.str "https://sandbox.example/")])]

/-- An object that spells a display mode is refused with a member that nobody asks for. -/
theorem extra_member_refused :
    Json.Reworded looseOutline (Sample.offering (.obj [("inline",.null)])).write
        (Sample.offering (.obj [("note",.bool true),("inline",.null)])).write ∧
      (∃ c, ofText (Sample.offering (.obj [("inline",.null)])).write = .ok c) ∧
      ∀ c, ofText (Sample.offering (.obj [("note",.bool true),("inline",.null)])).write ≠ .ok c := by
  refine ⟨Json.reworded_write (.rel _ _ (.member (@Draft.Edit.item _ [] _ _ [] ?_))),?_,?_⟩
  · have foreign : "note" ∉ (DisplayMode.names.map fun m => (m.1,Outline.plain)).map (·.1) := by decide
    exact .extra foreign rfl nofun
  · have read : decode (Sample.offering (.obj [("inline",.null)])).draft =
        .ok (of ⟨"host","1.0"⟩ ⟨Sample.config.sandbox.url,SandboxConfig.defaultTokens,none⟩) := by
      decide +kernel
    exact ⟨_,ofText_write read (by decide) (by decide)⟩
  · intro c read
    obtain ⟨⟨read,-⟩,-⟩ := ofText_eq_ok.mp read
    rw [Json.write,String.toList_ofList,Draft.read_writeChars] at read
    have unknown : decode (Sample.offering (.obj [("note",.bool true),("inline",.null)])).draft =
        .error (.unknownVariant "note" (DisplayMode.names.map (·.1))) := by decide +kernel
    rw [unknown] at read
    cases read

end HostConfig

end ToolView
