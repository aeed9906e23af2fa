import Folio.Proofs.Render.Script
import Folio.Proofs.Scanner.Events
import Folio.Render.Page

/-!
# Carrying out programs

Scanning a template is going through its events, and carrying out a program is doing what it asks
for, one thing after the other. So a program that just passes on its errors does what the rendering
does that is written in the same way.

* `Render.attempt_bind`: passing on an error that was met is not catching it.
* `Render.scanTemplate_eq`, `Render.scanInline_eq`: scanning is going through events.
* **`Program.run_bind`**: one program after the other.
* `Program.run_write`, `Program.run_createView`, …: the single steps.
* **`Program.Simply`**: a program that does just what a rendering does; `Simply.scanTemplate`,
  `Simply.fillTemplate`, `Simply.repeatRecords`: the rules.
* `View.render_content`, `View.render_templateFile`, …: what some views do; `Builder.calls_plain`:
  what builders of one page compose.
-/

namespace Folio

namespace Render

/-- End as an outcome says. -/
def ofExcept {α : Type} (outcome : Except Failure α) : Render α := fun rendering =>
  (outcome, rendering)

/-- Where an error that was met is passed on, it ends all. -/
theorem attempt_bind {α β : Type} (x : Render α) {f : Except RenderError α → Render β}
    (h : ∀ error, f (.error error) = fail error) :
    attempt x >>= f = x >>= fun value => f (.ok value) := by
  funext start
  simp only [bind_apply, attempt]
  rcases x start with ⟨(error | _ | _) | _, next⟩
  · exact congrFun (h error) next
  · rfl
  · rfl
  · rfl

end Render

/-- The characters of a template; an error among them names it. -/
def Expansion.charsOfTemplate (name : String) (signals : List Signal) :
    List (Except Failure Char) :=
  (charsOf signals).map fun c => c.mapError fun e => .error (.templateRead name e)

/-! ## Events -/

section Events

variable {σ : Type}

/-- Offering events to the sink of a scan is going through them. -/
theorem offerAll_offerTo (onTag : TagHandler σ) (events : List Event) (memory : σ)
    (start : Rendering) :
    let run := answerEvents Render.write onTag events memory start
    ∃ last, offerAll (Render.offerTo onTag) events (memory, start) =
      (run.1.map fun _ => (), last, run.2) := by
  induction events generalizing memory start with
  | nil => exact ⟨memory, rfl⟩
  | cons event events ih =>
    cases event with
    | literal text =>
      simp only [offerAll, Render.offerTo, answerEvents, Render.bind_apply]
      rcases Render.write text start with ⟨_ | _, next⟩
      · exact ⟨memory, rfl⟩
      · exact ih memory next
    | tag name =>
      simp only [offerAll, Render.offerTo, answerEvents, Render.bind_apply]
      rcases onTag name memory start with ⟨_ | memory, next⟩
      · exact ⟨memory, rfl⟩
      · exact ih memory next

/-- **Scanning a template is going through its events**, up to its end or to where it cannot be
read. -/
theorem Render.scanTemplate_eq (context : Context) (name : String) (onTag : TagHandler σ)
    (memory : σ) :
    scanTemplate context name onTag memory =
      (do
        let chars := Expansion.charsOfTemplate name (← openTemplate context name)
        let events := ({} : Scanner).saidOf context.templateOptions chars
        let _ ← answerEvents write onTag events memory
        ofExcept (ending chars)
        : Render Unit) := by
  funext start
  simp only [scanTemplate, Render.bind_apply]
  rcases openTemplate context name start with ⟨_ | signals, next⟩
  · rfl
  obtain ⟨last, hlast⟩ := offerAll_offerTo onTag
    (({} : Scanner).saidOf context.templateOptions (Expansion.charsOfTemplate name signals)) memory
    next
  simp only [scanStream, scan_eq_offerAll]
  rw [show (charsOf signals).map _ = Expansion.charsOfTemplate name signals from rfl, hlast]
  rcases answerEvents write onTag _ memory next with ⟨_ | _, last⟩ <;> rfl

/-- **Scanning a text is going through its events.** -/
theorem Render.scanInline_eq (context : Context) (text : String) (onTag : TagHandler σ)
    (memory : σ) :
    scanInline context text onTag memory =
      (do
        let _ ← answerEvents write onTag (eventsOf context.textOptions text) memory
        : Render Unit) := by
  funext start
  obtain ⟨last, hlast⟩ := offerAll_offerTo onTag (eventsOf context.textOptions text) memory start
  simp only [scanInline, scanText, scan_eq_offerAll, saidOf_text, hlast, ending_map_ok,
    Render.bind_apply]
  rcases answerEvents write onTag _ memory start with ⟨_ | _, last⟩ <;> rfl

end Events

/-! ## Programs -/

namespace Program

instance {ν β : Type} {writes : Bool} : LawfulMonad (Program ν β writes) := by
  refine LawfulMonad.mk' _ (fun x => ?_) (fun _ _ => rfl) fun x f g => ?_
  · change x.andThen (fun a => returns (id a)) = x
    induction x with
    | returns value => rfl
    | fails error => rfl
    | panics => rfl
    | bring component next ih => exact congrArg (bring component) (funext ih)
    | ask question next ih => exact congrArg (ask question) (funext ih)
  · change (x.andThen f).andThen g = x.andThen fun a => (f a).andThen g
    induction x with
    | returns value => rfl
    | fails error => rfl
    | panics => rfl
    | bring component next ih => exact congrArg (bring component) (funext ih)
    | ask question next ih => exact congrArg (ask question) (funext ih)

variable {writes : Bool} {α γ : Type} (context : Context) (inner : Inner)

/-- **One program after the other**: the second finds the components that the first gave numbers. -/
theorem run_bind (x : Program View Builder writes α) (f : α → Program View Builder writes γ)
    (made : List Made) :
    (x >>= f).run context inner made =
      x.run context inner made >>= fun (a, made) => (f a).run context inner made := by
  change (x.andThen f).run context inner made = _
  induction x generalizing made with
  | returns value => rw [andThen, run, pure_bind]
  | fails error => rfl
  | panics => rfl
  | bring component next ih => rw [andThen, run, run, ih]
  | ask question next ih =>
    rw [andThen, run, run, bind_assoc]
    exact congrArg _ (funext fun reply => ih reply.1 reply.2)

theorem run_pure (value : α) (made : List Made) :
    (pure value : Program View Builder writes α).run context inner made = pure (value, made) :=
  rfl

/-! ### Steps -/

/-- Passing on the error of what was tried is doing it. -/
theorem attempt_orFail (x : Render α) (made : List Made) :
    (Render.attempt x >>= fun reply => pure (reply, made)) >>= (fun told =>
      (orFail told.1 : Program View Builder writes α).run context inner told.2) =
      x >>= fun value => pure (value, made) := by
  rw [bind_assoc]
  exact Render.attempt_bind x fun _ => rfl

/-- Passing on the error of a construction is numbering what is constructed. -/
theorem numbered_orFail (x : Render α) (component : α → Made) (made : List Made) :
    (Render.attempt x >>= fun value => pure (Made.numbered made (value.map component))) >>=
      (fun told => (orFail told.1 : Program View Builder writes Nat).run context inner told.2) =
      x >>= fun value => pure (made.length, made ++ [component value]) := by
  rw [bind_assoc]
  exact Render.attempt_bind x fun _ => rfl

theorem run_write (text : String) (made : List Made) :
    (write text : Program View Builder true Unit).run context inner made =
      Render.write text >>= fun _ => pure ((), made) :=
  attempt_orFail context inner (Render.write text) made

theorem run_openTemplate (name : String) (made : List Made) :
    (openTemplate name : Program View Builder writes _).run context inner made =
      Render.openTemplate context name >>= fun signals => pure (signals, made) :=
  attempt_orFail context inner (Render.openTemplate context name) made

theorem run_render (number : Nat) (made : List Made) :
    (render number : Program View Builder true Unit).run context inner made =
      inner.number made number >>= fun _ => pure ((), made.modify number Made.again) :=
  attempt_orFail context inner (inner.number made number) (made.modify number Made.again)

theorem run_createView (identifier : String) (model : Option Model) (made : List Made) :
    (createView identifier model : Program View Builder writes _).run context inner made =
      Render.constructView context identifier model >>= fun view =>
        pure (made.length, made ++ [.view view]) :=
  numbered_orFail context inner (Render.constructView context identifier model) Component.view made

theorem run_createBuilder (identifier : String) (pathData : PathData) (made : List Made) :
    (createBuilder identifier pathData : Program View Builder writes _).run context inner made =
      Render.constructBuilder context identifier pathData >>= fun builder =>
        pure (made.length, made ++ [.builder builder.name (builder, 0)]) :=
  numbered_orFail context inner (Render.constructBuilder context identifier pathData)
    (fun builder => .builder builder.name (builder, 0)) made

/-! ### Programs that are renderings -/

/-- **The program just does what the rendering does**, and numbers nothing. -/
def Simply (program : Program View Builder writes α) (render : Render α) : Prop :=
  ∀ made, program.run context inner made = render >>= fun value => pure (value, made)

namespace Simply

variable {context inner} {σ : Type}

theorem bind {x : Program View Builder writes α} {y : Render α}
    {f : α → Program View Builder writes γ} {g : α → Render γ} (h : x.Simply context inner y)
    (hf : ∀ a, (f a).Simply context inner (g a)) : (x >>= f).Simply context inner (y >>= g) := by
  intro made
  simp only [run_bind, h made, bind_assoc, pure_bind, fun a => hf a made]

theorem pure (value : α) :
    (Pure.pure value : Program View Builder writes α).Simply context inner (Pure.pure value) :=
  fun _ => (pure_bind _ _).symm

theorem fails (error : RenderError) :
    (fails error : Program View Builder writes α).Simply context inner (Render.fail error) :=
  fun _ => rfl

theorem write (text : String) :
    (write text : Program View Builder true Unit).Simply context inner (Render.write text) :=
  run_write context inner text

theorem openTemplate (name : String) :
    (openTemplate name : Program View Builder writes _).Simply context inner
      (Render.openTemplate context name) :=
  run_openTemplate context inner name

theorem forM {ι : Type} (xs : List ι) {f : ι → Program View Builder writes Unit}
    {g : ι → Render Unit} (h : ∀ x, (f x).Simply context inner (g x)) :
    (xs.forM f).Simply context inner (xs.forM g) := by
  induction xs with
  | nil => exact pure ()
  | cons x xs ih => exact (h x).bind fun _ => ih

theorem answerEvents {onTag : String → σ → Program View Builder true σ} {answer : TagHandler σ}
    (h : ∀ tag memory, (onTag tag memory).Simply context inner (answer tag memory))
    (events : List Event) (memory : σ) :
    (answerEvents Program.write onTag events memory).Simply context inner
      (Folio.answerEvents Render.write answer events memory) := by
  induction events generalizing memory with
  | nil => exact pure memory
  | cons event events ih =>
    cases event with
    | literal text => exact (write text).bind fun _ => ih memory
    | tag name => exact (h name memory).bind ih

theorem orFail (outcome : Except RenderError α) :
    (orFail outcome : Program View Builder writes α).Simply context inner
      (Render.ofExcept (outcome.mapError .error)) := by
  cases outcome with
  | ok value => exact pure value
  | error error => exact fails error

theorem scanTemplate {onTag : String → Unit → Program View Builder true Unit}
    {answer : TagHandler Unit}
    (h : ∀ tag memory, (onTag tag memory).Simply context inner (answer tag memory))
    (name : String) :
    (Program.scanTemplate context.templateOptions name onTag ()).Simply context inner
      (Render.scanTemplate context name answer ()) := by
  rw [Render.scanTemplate_eq, Program.scanTemplate]
  refine (openTemplate name).bind fun signals => ?_
  have hchars : Expansion.charsOfTemplate name signals =
      ((charsOf signals).map fun c => c.mapError (RenderError.templateRead name)).map
        (Except.mapError .error) := by
    rw [List.map_map]
    refine List.map_congr_left fun c _ => ?_
    cases c <;> rfl
  rw [transcript_eq, hchars]
  generalize (charsOf signals).map _ = chars
  dsimp only
  rw [saidOf_map_mapError, (readable_map_mapError Failure.error chars).2]
  refine (answerEvents h _ ()).bind fun _ => ?_
  cases ending chars with
  | ok _ => exact pure ()
  | error error => exact fails error

theorem copyTemplate (name : String) :
    (Program.copyTemplate name).Simply context inner (Render.copyTemplate context name) := by
  refine (openTemplate name).bind fun signals => forM _ fun c => ?_
  cases c with
  | ok c => exact write _
  | error e => exact fails _

theorem answerFrom (model : Model) {unmatched : String → Program View Builder true Unit}
    {report : String → Render Unit}
    (h : ∀ tag, (unmatched tag).Simply context inner (report tag)) (tag : String) :
    (Program.answerFrom model unmatched tag).Simply context inner
      (Render.answerFrom model report tag) := by
  unfold Program.answerFrom Render.answerFrom
  cases model.property tag with
  | some value => exact write value
  | none => exact h tag

/-- **Filling a template in a program is filling it.** -/
theorem fillTemplate (name : String) (model : Model)
    {unmatched : String → Program View Builder true Unit} {report : String → Render Unit}
    (h : ∀ tag, (unmatched tag).Simply context inner (report tag)) :
    (Program.fillTemplate context.templateOptions name model unmatched).Simply context inner
      (Render.fillTemplate context name model report) :=
  scanTemplate (fun tag _ => answerFrom model h tag) name

/-- **Filling a template per record in a program is doing so.** -/
theorem repeatRecords (templates : RepeaterParts) (items : List Model) (ambient : Model)
    {unmatched : String → Option Model → Program View Builder true Unit}
    {report : String → Option Model → Render Unit}
    (h : ∀ tag record, (unmatched tag record).Simply context inner (report tag record)) :
    (Program.repeatRecords context.templateOptions templates items ambient unmatched).Simply context
      inner (Render.repeatRecords context templates items ambient report) := by
  refine scanTemplate (fun tag _ => ?_) templates.header
  dsimp only
  split
  · exact forM items fun item => fillTemplate templates.item item fun tag => h tag (some item)
  · split
    · exact fillTemplate templates.footer ambient fun tag => h tag none
    · exact answerFrom ambient (fun tag => h tag none) tag

end Simply

end Program

/-! ## Views -/

namespace View

variable (context : Context) (inner : Inner)

theorem render_of_simply {program : Context → Program View Builder true Unit} {render : Render Unit}
    (h : (program context).Simply context inner render) :
    (View.mk program).render context inner = render := by
  rw [View.render, View.program, h, bind_assoc]
  exact bind_pure_unit

theorem render_content (text : String) :
    (content text).render context inner = Render.write text :=
  render_of_simply context inner (.write text)

theorem render_templateFile (name : String) :
    (templateFile name).render context inner = Render.copyTemplate context name :=
  render_of_simply context inner (.copyTemplate name)

theorem render_modelTemplate (name : String) (model : Model) :
    (modelTemplate name model).render context inner = Render.fillTemplate context name model :=
  render_of_simply context inner (.fillTemplate name model fun _ => .pure ())

theorem render_repeater (templates : RepeaterParts) (items : List Model) (ambient : Model) :
    (repeater templates items ambient).render context inner =
      Render.repeatRecords context templates items ambient :=
  render_of_simply context inner (.repeatRecords templates items ambient fun _ _ => .pure ())

theorem render_created (identifier : String) (model : Option Model) :
    (created identifier model).render context inner =
      Render.constructView context identifier model >>= inner.view := by
  rw [View.render, created, View.program, Program.run_bind, Program.run_createView]
  simp only [bind_assoc, pure_bind, Program.run_render]
  exact congrArg _ (funext fun view => bind_pure_unit)

theorem render_built (identifier : String) (pathData : PathData) :
    (built identifier pathData).render context inner =
      Render.constructBuilder context identifier pathData >>= fun builder =>
        inner.builder builder 0 := by
  rw [View.render, built, View.program, Program.run_bind, Program.run_createBuilder]
  simp only [bind_assoc, pure_bind, Program.run_render]
  exact congrArg _ (funext fun builder => bind_pure_unit)

end View

/-! ## Builders -/

/-- Components that are brought along to be registered are found by the numbers that they are
given. -/
theorem Program.run_bringAll {writes : Bool} (context : Context) (inner : Inner)
    (components : List (String × (View ⊕ Builder))) (made : List Made) :
    ∃ calls, (components.mapM fun (tag, component) => do
        return PageCall.register tag (← Program.bringing component)
        : Program View Builder writes (List (PageCall Nat))).run context inner made =
        pure (calls, made ++ components.map fun entry => .new entry.2) ∧
      ∀ more, calls.mapM
          (PageCall.fetch? ((made ++ components.map fun entry => .new entry.2) ++ more)) =
        some (components.map fun entry => .register entry.1 (.new entry.2)) := by
  induction components generalizing made with
  | nil => exact ⟨[], by rw [List.map_nil, List.append_nil]; rfl, fun _ => rfl⟩
  | cons entry components ih =>
    obtain ⟨tag, component⟩ := entry
    obtain ⟨calls, hrun, hcalls⟩ := ih (made ++ [.new component])
    have hmade : made ++ ((tag, component) :: components).map (fun entry => Made.new entry.2) =
        (made ++ [.new component]) ++ components.map fun entry => Made.new entry.2 := by
      rw [List.map_cons, List.append_assoc, List.singleton_append]
    refine ⟨.register tag made.length :: calls, ?_, fun more => ?_⟩
    · have hfirst : (do
          return PageCall.register tag (← Program.bringing component)
          : Program View Builder writes (PageCall Nat)).run context inner made =
          pure (.register tag made.length, made ++ [.new component]) := rfl
      rw [hmade, List.mapM_cons, run_bind, hfirst, pure_bind]
      dsimp only
      rw [run_bind, hrun, pure_bind]
      rfl
    · have hfetch : PageCall.fetch? (((made ++ [.new component]) ++
          components.map fun entry => Made.new entry.2) ++ more) (.register tag made.length) =
          some (.register tag (.new component)) := by
        simp [PageCall.fetch?]
      rw [hmade, List.mapM_cons, hfetch, hcalls more]
      rfl

/-- **A builder of one page** composes this page. -/
theorem Builder.calls_plain (context : Context) (inner : Inner) (name : String)
    (master : MasterTemplate) (components : List (String × (View ⊕ Builder))) (cycle : Nat) :
    (Builder.plain name master components).calls context inner cycle =
      pure (.setMaster master :: components.map fun entry => .register entry.1 (.new entry.2)) := by
  obtain ⟨calls, hrun, hcalls⟩ := Program.run_bringAll context inner components []
  have hassemble : (Hook.assemble master components).run context inner [] =
      pure (.setMaster master :: calls, components.map fun entry => .new entry.2) := by
    rw [Hook.assemble, Program.run_bind, hrun, pure_bind]
    rfl
  have hall := hcalls []
  rw [List.nil_append, List.append_nil] at hall
  rw [plain, Builder.calls, Program.run_pure, pure_bind]
  dsimp only
  rw [Program.run_pure, pure_bind]
  dsimp only
  rw [hassemble, pure_bind]
  dsimp only
  rw [List.mapM_cons,
    show PageCall.fetch? _ (.setMaster master) = some (.setMaster master) from rfl, hall]
  rfl

end Folio
