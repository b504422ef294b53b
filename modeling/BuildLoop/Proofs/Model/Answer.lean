import BuildLoop.Architecture.Record
import BuildLoop.Diagnosis.Correction
import BuildLoop.Json.Answer
import BuildLoop.Proofs.Json.Shape
import BuildLoop.Proofs.Text.Cut
import BuildLoop.Worker.Action

/-!
# Answers that are read back

A role answers with the text of one value, alone or inside a code fence. The text is taken out of the fence
whatever it holds, fences included, as it starts and ends with a bracket; then its shape reads what its value
was made from:

    EnclosedIn s raw, s in brackets   →   unfenced raw = s                              (unfenced_of_enclosed)
    Restores depthLimit a   →   an answer that encloses a text of `a` is read as `a`  (readAnswer_of_restores)

A field that is written only if it is set is read as null if it is not there                  (fills_ifSet).
-/

namespace BuildLoop

open Text

namespace Json

/-! ## Fences -/

section
variable {s b : List Char}

theorem getLast?_append_fence (x : List Char) : (x ++ fence).getLast? = some '\x60' := by
  rw [List.getLast?_append]
  rfl

/-- Whether an answer is a text, or a code fence around it, with blanks around both. -/
inductive EnclosedIn (s : List Char) : List Char → Prop where
  | alone {b b' : List Char} (hb : b.all isBlank = true) (hb' : b'.all isBlank = true) : EnclosedIn s (b ++ (s ++ b'))
  | fenced {label b₁ b₂ b₃ b₄ : List Char} (hlabel : label = [] ∨ label = "json".toList) (h₁ : b₁.all isBlank = true)
      (h₂ : b₂.all isBlank = true) (h₃ : b₃.all isBlank = true) (h₄ : b₄.all isBlank = true) :
      EnclosedIn s (b₁ ++ (fence ++ (label ++ (b₂ ++ (s ++ (b₃ ++ fence)))) ++ b₄))

theorem afterFence?_fence {label : List Char} (hlabel : label = [] ∨ label = "json".toList) (hb : b.all isBlank = true)
    (x : List Char) : afterFence? (fence ++ (label ++ (b ++ '\x7b' :: x))) = some (b ++ '\x7b' :: x) := by
  rw [afterFence?, after?_append]
  rcases hlabel with rfl | rfl
  · have hnone : after? (fence ++ "json".toList) (fence ++ ([] ++ (b ++ '\x7b' :: x))) = none := by
      cases b with
      | nil => rfl
      | cons c b =>
        have hc : ¬ 'j' = c := by
          rintro rfl
          cases hb
        simp [fence, after?, hc]
    rw [hnone]
    rfl
  · rw [← List.append_assoc, after?_append]
    rfl

/-- The text of an object is taken out of its answer, whatever it holds. -/
theorem unfenced_of_enclosed {raw : List Char} (hfirst : s.head? = some '\x7b') (hlast : s.getLast? = some '\x7d')
    (h : EnclosedIn s raw) : unfenced raw = s := by
  obtain ⟨x, rfl⟩ := List.head?_eq_some_iff.1 hfirst
  have hobject : ∀ b b' : List Char, b.all isBlank = true → b'.all isBlank = true →
      trim (b ++ ('\x7b' :: x ++ b')) = '\x7b' :: x := fun _ _ hb hb' =>
    trim_blanks hb hb' hfirst (by decide) hlast (by decide)
  cases h with
  | @alone b b' hb hb' =>
    have hfence : afterFence? ('\x7b' :: x) = none := rfl
    rw [unfenced, hobject b b' hb hb', hfence]
    simpa using hobject [] [] rfl rfl
  | @fenced label b₁ b₂ b₃ b₄ hlabel h₁ h₂ h₃ h₄ =>
    have hlast : ∀ y, (y ++ (b₂ ++ ('\x7b' :: x ++ (b₃ ++ fence)))).getLast? = some '\x60' := fun y => by
      simpa using getLast?_append_fence (y ++ (b₂ ++ ('\x7b' :: x ++ b₃)))
    have hblock : trim (b₁ ++ (fence ++ (label ++ (b₂ ++ ('\x7b' :: x ++ (b₃ ++ fence)))) ++ b₄)) = _ :=
      trim_blanks h₁ h₄ rfl (by decide) (by simpa using hlast (fence ++ label)) (by decide)
    have hend : trimEnd (b₂ ++ '\x7b' :: (x ++ (b₃ ++ fence))) = b₂ ++ ('\x7b' :: x ++ b₃) ++ fence := by
      have hinner : trimEnd (b₂ ++ ('\x7b' :: x ++ (b₃ ++ fence))) = _ := trimEnd_eq_self (hlast []) (by decide)
      rw [← List.cons_append, hinner]
      simp
    rw [unfenced, hblock]
    simp only [List.cons_append, afterFence?_fence hlabel h₂, Option.bind_some, hend, before?_append, Option.getD_some]
    exact hobject b₂ b₃ h₂ h₃

end

/-! ## Values that are read back -/

/-- Whether the JSON value of `a` is read as one that stands for `a`. -/
def Restores {α : Type} [Form α] (d : Nat) (a : α) : Prop :=
  ∃ v, Reads ((Form.shape α).read d) (toJson a) v ∧ ofJson? v = some a

section
variable {α : Type} [Form α] {a : α}

theorem parse_of_restores (h : Restores depthLimit a) {text : String} (htext : Written (toJson a) text.toList) :
    Form.parse α text = .ok a := by
  obtain ⟨v, hread, hback⟩ := h
  have hnothing : Ends [] := fun c hc => absurd hc (by simp)
  obtain ⟨m, hm⟩ := hread ⟨1, 0⟩ blanks_nil htext hnothing
  rw [List.nil_append, List.append_nil] at hm
  have hshape : (Form.shape α).parse text = .ok v := by
    rw [Shape.parse, Shape.parseFirst, Source.start, hm]
    rfl
  rw [Form.parse, hshape]
  simp only [bind, Except.bind, Form.take, hback]

theorem readAnswer_of_restores (h : Restores depthLimit a) {ms : List (String × Json)} (hobject : toJson a = .object ms)
    (role : String) {text raw : String} (htext : Written (toJson a) text.toList)
    (hraw : EnclosedIn text.toList raw.toList) : readAnswer α role raw = .ok a := by
  have hunfenced : unfenced raw.toList = text.toList := by
    rw [hobject] at htext
    generalize text.toList = s at htext hraw
    cases htext with
    | @object _ r _ => exact unfenced_of_enclosed rfl (List.getLast?_concat (l := '\x7b' :: r)) hraw
  rw [readAnswer, hunfenced, String.ofList_toList, parse_of_restores h htext]

theorem restores_string (d : Nat) (s : String) : Restores d s := ⟨.text s, reads_text d s, rfl⟩

theorem restores_list {as : List α} {d : Nat} (h : ∀ a ∈ as, Restores d a) : Restores (d + 1) as := by
  have hitems : ∃ vs, List.Forall₂ (Reads ((Form.shape α).read d)) (as.map toJson) vs ∧ vs.mapM ofJson? = some as := by
    induction as with
    | nil => exact ⟨[], .nil, rfl⟩
    | cons a as ih =>
      obtain ⟨ha, has⟩ := List.forall_mem_cons.1 h
      obtain ⟨v, hread, hback⟩ := ha
      obtain ⟨vs, hreads, hbacks⟩ := ih has
      exact ⟨v :: vs, .cons hread hreads, by simp [hback, hbacks]⟩
  obtain ⟨vs, hreads, hbacks⟩ := hitems
  exact ⟨.list vs, reads_list hreads, hbacks⟩

/-- Whether a value is read back from one text, which is its JSON value. -/
def SpeltAs (d : Nat) (a : α) (k : String) : Prop :=
  toJson a = .text k ∧ Reads ((Form.shape α).read d) (.text k) (.text k) ∧ ofJson? (.text k) = some a

theorem SpeltAs.restores {d : Nat} {k : String} (h : SpeltAs d a k) : Restores d a := by
  obtain ⟨htext, hread, hback⟩ := h
  exact ⟨.text k, htext ▸ hread, hback⟩

theorem restores_option {o : Option α} {d : Nat} (h : ∀ a ∈ o, ∃ k, SpeltAs d a k) : Restores d o := by
  cases o with
  | none => exact ⟨.null, reads_null _ _, rfl⟩
  | some a =>
    obtain ⟨k, htext, hread, hback⟩ := h a rfl
    refine ⟨.text k, ?_, congrArg (Option.map some) hback⟩
    have hjson : toJson (some a) = Json.text k := htext
    rw [hjson]
    exact hread.optional Json.noConfusion

end

end Json

open Json

/-! ## Answers of each kind -/

section
variable {d : Nat}

theorem spelt_role (d : Nat) (r : Role) : SpeltAs d r r.name := by
  refine ⟨rfl, reads_choice ?_ d, ?_⟩
  · cases r <;> decide
  · cases r <;> rfl

theorem spelt_status (d : Nat) (s : Status) : SpeltAs d s s.name := by
  refine ⟨rfl, reads_choice ?_ d, ?_⟩
  · cases s <;> decide
  · cases s <;> rfl

theorem spelt_fault (d : Nat) (f : Fault) : SpeltAs d f f.name := by
  refine ⟨rfl, reads_choice ?_ d, ?_⟩
  · cases f <;> decide
  · cases f <;> rfl

theorem spelt_string (d : Nat) (s : String) : SpeltAs d s s := ⟨rfl, reads_text d s, rfl⟩

theorem restores_strings (d : Nat) (ss : List String) : Restores (d + 1) ss :=
  restores_list fun s _ => restores_string d s

theorem restores_techStack (t : TechStack) : Restores (d + 2) t := by
  obtain ⟨v₁, h₁, e₁⟩ := restores_string (d + 1) t.backend
  obtain ⟨v₂, h₂, e₂⟩ := restores_string (d + 1) t.frontend
  obtain ⟨v₃, h₃, e₃⟩ := restores_string (d + 1) t.database
  obtain ⟨v₄, h₄, e₄⟩ := restores_strings d t.additional
  refine ⟨_, reads_record (.given h₁ (.given h₂ (.given h₃ (.given h₄ .nil)))) (by decide) _, ?_⟩
  delta instFormTechStack
  simp (disch := decide) only [get?, field?_self, field?_of_ne, e₁, e₂, e₃, e₄, Option.bind_eq_bind, Option.bind_some]

theorem restores_fileEntry (e : FileEntry) : Restores (d + 1) e := by
  obtain ⟨v₁, h₁, e₁⟩ := restores_string d e.path
  obtain ⟨v₂, h₂, e₂⟩ := restores_string d e.purpose
  refine ⟨_, reads_record (.given h₁ (.given h₂ .nil)) (by decide) _, ?_⟩
  delta instFormFileEntry
  simp (disch := decide) only [get?, field?_self, field?_of_ne, e₁, e₂, Option.bind_eq_bind, Option.bind_some]

theorem restores_fileStructure (f : FileStructure) : Restores (d + 3) f := by
  have hentries : ∀ es : List FileEntry, Restores (d + 2) es := fun es => restores_list fun e _ => restores_fileEntry e
  obtain ⟨v₁, h₁, e₁⟩ := hentries f.backend
  obtain ⟨v₂, h₂, e₂⟩ := hentries f.frontend
  obtain ⟨v₃, h₃, e₃⟩ := hentries f.config
  refine ⟨_, reads_record (.given h₁ (.given h₂ (.given h₃ .nil))) (by decide) _, ?_⟩
  delta instFormFileStructure
  simp (disch := decide) only [get?, field?_self, field?_of_ne, e₁, e₂, e₃, Option.bind_eq_bind, Option.bind_some]

theorem restores_dependencies (ds : Dependencies) : Restores (d + 2) ds := by
  obtain ⟨v₁, h₁, e₁⟩ := restores_strings d ds.backend
  obtain ⟨v₂, h₂, e₂⟩ := restores_strings d ds.frontend
  refine ⟨_, reads_record (.given h₁ (.given h₂ .nil)) (by decide) _, ?_⟩
  delta instFormDependencies
  simp (disch := decide) only [get?, field?_self, field?_of_ne, e₁, e₂, Option.bind_eq_bind, Option.bind_some]

theorem restores_endpoint (e : Endpoint) : Restores (d + 1) e := by
  obtain ⟨v₁, h₁, e₁⟩ := restores_string d e.method
  obtain ⟨v₂, h₂, e₂⟩ := restores_string d e.path
  obtain ⟨v₃, h₃, e₃⟩ := restores_string d e.description
  refine ⟨_, reads_record (.given h₁ (.given h₂ (.given h₃ .nil))) (by decide) _, ?_⟩
  delta instFormEndpoint
  simp (disch := decide) only [get?, field?_self, field?_of_ne, e₁, e₂, e₃, Option.bind_eq_bind, Option.bind_some]

theorem restores_architecture (a : Architecture) : Restores (d + 4) a := by
  obtain ⟨v₁, h₁, e₁⟩ := restores_techStack (d := d + 1) a.stack
  obtain ⟨v₂, h₂, e₂⟩ := restores_string (d + 3) a.overview
  obtain ⟨v₃, h₃, e₃⟩ := restores_fileStructure (d := d) a.files
  obtain ⟨v₄, h₄, e₄⟩ := restores_dependencies (d := d + 1) a.dependencies
  obtain ⟨v₅, h₅, e₅⟩ := restores_list (d := d + 2) fun e (_ : e ∈ a.endpoints) => restores_endpoint (d := d + 1) e
  obtain ⟨v₆, h₆, e₆⟩ := restores_string (d + 3) a.dataFlow
  obtain ⟨v₇, h₇, e₇⟩ := restores_string (d + 3) a.instructions
  refine ⟨_, reads_record (.given h₁ (.given h₂ (.given h₃ (.given h₄ (.given h₅ (.given h₆ (.given h₇ .nil)))))))
    (by decide) _, ?_⟩
  delta instFormArchitecture
  simp (disch := decide) only [get?, field?_self, field?_of_ne, e₁, e₂, e₃, e₄, e₅, e₆, e₇, Option.bind_eq_bind, Option.bind_some]

/-- A member that is written only if it is set is read as null if it is not there. -/
theorem fills_ifSet {α : Type} [Form α] {o : Option α} (h : ∀ a ∈ o, ∃ k, SpeltAs d a k) (key : String)
    {rest : Fields} {ms vs : List (String × Json)} (hrest : Fills d rest ms vs) :
    ∃ v, Fills d (.cons key (.optional (Form.shape α)) (.default .null) rest) (ifSet key o ++ ms) ((key, v) :: vs) ∧
      ofJson? v = some o := by
  cases o with
  | none => exact ⟨.null, .left rfl hrest, rfl⟩
  | some a =>
    obtain ⟨v, hread, hback⟩ := restores_option h
    exact ⟨v, .given hread hrest, hback⟩

theorem restores_task (t : Task) : Restores (d + 2) t := by
  obtain ⟨v₁, h₁, e₁⟩ := restores_string (d + 1) t.id
  obtain ⟨v₂, h₂, e₂⟩ := restores_string (d + 1) t.description
  obtain ⟨v₃, h₃, e₃⟩ := (spelt_role (d + 1) t.role).restores
  obtain ⟨v₄, h₄, e₄⟩ := (spelt_status (d + 1) t.status).restores
  obtain ⟨v₅, h₅, e₅⟩ := restores_strings d t.dependencies
  obtain ⟨v₇, h₇, e₇⟩ := fills_ifSet (o := t.failure) (fun s _ => ⟨s, spelt_string (d + 1) s⟩) "failure" .nil
  obtain ⟨v₆, h₆, e₆⟩ := fills_ifSet (o := t.fault) (fun f _ => ⟨f.name, spelt_fault (d + 1) f⟩) "error_type" h₇
  have hjson : toJson t = Json.object (("id", toJson t.id) :: ("description", toJson t.description) ::
      ("assigned_agent", toJson t.role) :: ("status", toJson t.status) :: ("dependencies", toJson t.dependencies) ::
        (ifSet "error_type" t.fault ++ (ifSet "failure" t.failure ++ []))) := by
    delta instFormTask
    simp
  refine ⟨_, hjson ▸ reads_record (.given h₁ (.given h₂ (.given h₃ (.given h₄ (.given h₅ h₆))))) (by decide) _, ?_⟩
  delta instFormTask
  simp (disch := decide) only [get?, field?_self, field?_of_ne, e₁, e₂, e₃, e₄, e₅, e₆, e₇, Option.bind_eq_bind, Option.bind_some]

theorem restores_plannedTasks (p : PlannedTasks) : Restores (d + 4) p := by
  obtain ⟨v, h, e⟩ := restores_list fun t (_ : t ∈ p.tasks) => restores_task (d := d) t
  refine ⟨_, reads_record (.given h .nil) (by decide) _, ?_⟩
  delta instFormPlannedTasks
  simp only [get?, field?_self, e, Option.bind_eq_bind, Option.bind_some]

theorem restores_workerAction (a : WorkerAction) : Restores (d + 1) a := by
  cases a with
  | writeFile path content =>
    have hmembers : ∀ p ∈ [("path", Json.text path), ("content", Json.text content)],
        p.1 ≠ "action" ∧ Reads (readAny .all d) p.2 p.2 := by
      rw [List.forall_mem_cons, List.forall_mem_singleton]
      exact ⟨⟨by simp, reads_any _ _ (.inr ⟨_, rfl⟩)⟩, by simp, reads_any _ _ (.inr ⟨_, rfl⟩)⟩
    exact ⟨_, reads_tagged rfl hmembers rfl _, rfl⟩
  | runCommand command workdir =>
    have hworkdir : toJson workdir = .null ∨ ∃ s, toJson workdir = .text s := by
      cases workdir with
      | none => exact .inl rfl
      | some s => exact .inr ⟨s, rfl⟩
    have hmembers : ∀ p ∈ [("command", Json.text command), ("workdir", toJson workdir)],
        p.1 ≠ "action" ∧ Reads (readAny .all d) p.2 p.2 := by
      rw [List.forall_mem_cons, List.forall_mem_singleton]
      exact ⟨⟨by simp, reads_any _ _ (.inr ⟨_, rfl⟩)⟩, by simp, reads_any _ _ hworkdir⟩
    cases workdir with
    | none => exact ⟨_, reads_tagged rfl hmembers rfl _, rfl⟩
    | some s => exact ⟨_, reads_tagged rfl hmembers rfl _, rfl⟩

theorem restores_workerPlan (p : WorkerPlan) : Restores (d + 3) p := by
  obtain ⟨v₁, h₁, e₁⟩ := restores_list fun a (_ : a ∈ p.actions) => restores_workerAction (d := d) a
  obtain ⟨v₂, h₂, e₂⟩ := restores_option (o := p.notes) fun s _ => ⟨s, spelt_string (d + 2) s⟩
  refine ⟨_, reads_record (.given h₁ (.given h₂ .nil)) (by decide) _, ?_⟩
  delta instFormWorkerPlan
  simp (disch := decide) only [get?, field?_self, field?_of_ne, e₁, e₂, Option.bind_eq_bind, Option.bind_some]

theorem restores_proposedFix (p : ProposedFix) (hline : ∀ n ∈ p.line, n < Nat.pow 2 64) : Restores (d + 1) p := by
  obtain ⟨v₁, h₁, e₁⟩ := restores_string d p.id
  obtain ⟨v₂, h₂, e₂⟩ := restores_string d p.description
  obtain ⟨v₃, h₃, e₃⟩ := (spelt_role d p.role).restores
  obtain ⟨v₄, h₄, e₄⟩ := (spelt_fault d p.fault).restores
  obtain ⟨v₅, h₅, e₅⟩ := restores_option (o := p.file) fun s _ => ⟨s, spelt_string d s⟩
  have h₆ : Reads ((Shape.optional countShape).read d) (optionalNat p.line) (optionalNat p.line) := by
    cases hp : p.line with
    | none => exact reads_null _ _
    | some n => exact (reads_natural (hline n hp) (hline n hp) _ _).optional Json.noConfusion
  have e₆ : (optionalNat p.line).asNat? = p.line := by
    cases p.line with
    | none => rfl
    | some n => rfl
  refine ⟨_, reads_record (.given h₁ (.given h₂ (.given h₃ (.given h₄ (.given h₅ (.given h₆ .nil))))))
    (by decide) _, ?_⟩
  delta instFormProposedFix
  simp (disch := decide) only [get?, field?_self, field?_of_ne, e₁, e₂, e₃, e₄, e₅, e₆, Option.bind_eq_bind, Option.bind_some]

end

/-! ## Normal forms -/

theorem isNoLayer_noLayer : isNoLayer noLayer = true := by decide +kernel

theorem isNoLayer_normalLayer (s : String) : isNoLayer (TechStack.normalLayer s) = isNoLayer s := by
  unfold TechStack.normalLayer
  split
  · next h => rw [isNoLayer_noLayer, h]
  · rfl

theorem normalLayer_normalLayer (s : String) :
    TechStack.normalLayer (TechStack.normalLayer s) = TechStack.normalLayer s := by
  conv_lhs => rw [TechStack.normalLayer, isNoLayer_normalLayer]
  split
  · next h => rw [TechStack.normalLayer, if_pos h]
  · rfl

namespace TechStack

variable (t : TechStack)

theorem normalized_normalized : t.normalized.normalized = t.normalized := by
  simp only [normalized, normalLayer_normalLayer]

theorem hasBackend_normalized : t.normalized.hasBackend = t.hasBackend := by
  simp only [hasBackend, normalized, isNoLayer_normalLayer]

theorem hasFrontend_normalized : t.normalized.hasFrontend = t.hasFrontend := by
  simp only [hasFrontend, normalized, isNoLayer_normalLayer]

theorem hasDatabase_normalized : t.normalized.hasDatabase = t.hasDatabase := by
  simp only [hasDatabase, normalized, isNoLayer_normalLayer]

end TechStack

namespace Architecture

variable (a : Architecture)

theorem normalized_normalized : a.normalized.normalized = a.normalized := by
  rw [normalized, normalized, TechStack.normalized_normalized]

theorem hasBackend_normalized : a.normalized.hasBackend = a.hasBackend := a.stack.hasBackend_normalized

theorem validate_normalized : a.normalized.validate = .ok () ↔ a.validate = .ok () := by
  have hfiles : a.normalized.files = a.files := rfl
  have hflow : a.normalized.dataFlow = a.dataFlow := rfl
  unfold validate
  rw [hasBackend_normalized, hfiles, hflow]
  split
  · rfl
  split
  · rfl
  split
  · -- the text of this refusal repeats the technology, which may change
    exact ⟨nofun, nofun⟩
  · rfl

end Architecture

/-! ## Answers -/

/-- Whether every answer that encloses a text of `a` is read as `a`, whoever gives it. -/
def ReadBack {α : Type} [Form α] (a : α) : Prop := ∀ role text raw : String,
  Written (toJson a) text.toList → EnclosedIn text.toList raw.toList → readAnswer α role raw = .ok a

/-- What a role may answer with is read back, in whatever layout and fence it is written, and an architecture
in its normal form. A line number has 64 bits. -/
theorem readBack_answers :
    (∀ j : Json, Written j (compact j).toList ∧ Written j (indented j).toList) ∧
    (∀ t : Task, ReadBack t) ∧ (∀ a : Architecture, ReadBack a) ∧ (∀ p : PlannedTasks, ReadBack p) ∧
    (∀ p : WorkerPlan, ReadBack p) ∧ (∀ p : ProposedFix, (∀ n ∈ p.line, n < Nat.pow 2 64) → ReadBack p) ∧
    ∀ a : Architecture,
      (∀ text : String, Written (toJson a) text.toList → Architecture.parse text = .ok a.normalized) ∧
      a.normalized.normalized = a.normalized ∧ a.normalized.hasBackend = a.hasBackend ∧
      a.normalized.stack.hasFrontend = a.stack.hasFrontend ∧ a.normalized.stack.hasDatabase = a.stack.hasDatabase ∧
      (a.normalized.validate = .ok () ↔ a.validate = .ok ()) := by
  have hobject : ∀ {α : Type} [Form α] {a : α} {ms : List (String × Json)}, Restores depthLimit a →
      toJson a = .object ms → ReadBack a := fun h hms role _ _ => readAnswer_of_restores h hms role
  refine ⟨fun j => ⟨written_compact j, written_indented 0 j⟩, fun t => hobject (restores_task t) rfl,
    fun a => hobject (restores_architecture a) rfl, fun p => hobject (restores_plannedTasks p) rfl,
    fun p => hobject (restores_workerPlan p) rfl, fun p hline => hobject (restores_proposedFix p hline) rfl,
    fun a => ⟨fun text htext => ?_, a.normalized_normalized, a.hasBackend_normalized,
      a.stack.hasFrontend_normalized, a.stack.hasDatabase_normalized, a.validate_normalized⟩⟩
  rw [Architecture.parse, parse_of_restores (restores_architecture a) htext]

/-- A correction that speaks of a fence. -/
def fenceFix : ProposedFix where
  id := "fix_1"
  description := "Remove the \x60\x60\x60json fence from main.py"
  role := .backend
  fault := .syntaxError
  file := some "main.py"
  line := some 12

/-- The answer that holds it, in a fence of its own. -/
def fencedFix : String := String.ofList (['\n'] ++
  (fence ++ ("json".toList ++ (['\n'] ++ ((compact (toJson fenceFix)).toList ++ (['\n'] ++ fence)))) ++ ['\n']))

theorem readBack_answers_fenced : (∀ n ∈ fenceFix.line, n < Nat.pow 2 64) ∧
    readAnswer ProposedFix "debugger" fencedFix = .ok fenceFix := by
  have hline : ∀ n ∈ fenceFix.line, n < Nat.pow 2 64 := by
    intro n hn
    cases hn
    decide
  obtain ⟨hprinted, -, -, -, -, hfix, -⟩ := readBack_answers
  refine ⟨hline, hfix fenceFix hline "debugger" _ fencedFix (hprinted _).1 ?_⟩
  rw [fencedFix, String.toList_ofList]
  exact .fenced (.inr rfl) (by decide) (by decide) (by decide) (by decide)

end BuildLoop
