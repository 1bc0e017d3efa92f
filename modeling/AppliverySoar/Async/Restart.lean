import AppliverySoar.Async.Pool

/-!
# A process that stops and starts again

A process may stop between any two of its calls. What its threads had in hand
is lost, the store stays, and the next life starts other tasks over it.

Results:
* `Lives.invariant`: what every life starts from, what each step keeps, and what
  a stop leaves behind.
-/

namespace AppliverySoar.Async

variable {S : Sig} {ε σ Task : Type}

/-- The histories of a process over the store `s`: each life is a run under
`cond` of tasks that satisfy `entry`, and ends where `stop` holds. -/
inductive Lives (sys : System S ε σ Task) (cond : List (Label S ε Task) → σ → Label S ε Task → Prop)
    (stop : Config S ε σ Task → Prop) (entry : Task → Prop) (s : σ) : Config S ε σ Task → Prop
  | first {ts : List Task} {tr : List (Label S ε Task)} {cfg : Config S ε σ Task} :
      (∀ t ∈ ts, entry t) → Run sys cond (sys.launch s ts) tr cfg → Lives sys cond stop entry s cfg
  | again {cfg cfg' : Config S ε σ Task} {ts : List Task} {tr : List (Label S ε Task)} :
      Lives sys cond stop entry s cfg → stop cfg → (∀ t ∈ ts, entry t) →
      Run sys cond (sys.launch cfg.store ts) tr cfg' → Lives sys cond stop entry s cfg'

/-- **Main theorem of restarts**: an invariant `I` of a life, and what `J` says
of the store between two lives. -/
theorem Lives.invariant {sys : System S ε σ Task}
    {cond : List (Label S ε Task) → σ → Label S ε Task → Prop}
    {stop : Config S ε σ Task → Prop} {entry : Task → Prop} {s : σ} {cfg : Config S ε σ Task}
    (I : Config S ε σ Task → Prop) (J : σ → Prop) (hs : J s)
    (hlaunch : ∀ s ts, J s → (∀ t ∈ ts, entry t) → I (sys.launch s ts))
    (hstep : ∀ s ts tr cfg l cfg', Run sys cond (sys.launch s ts) tr cfg → Step sys cfg l cfg' →
      cond tr cfg.store l → I cfg → I cfg')
    (hstop : ∀ cfg, I cfg → stop cfg → J cfg.store)
    (h : Lives sys cond stop entry s cfg) : I cfg := by
  have hlife : ∀ s ts tr cfg, J s → (∀ t ∈ ts, entry t) →
      Run sys cond (sys.launch s ts) tr cfg → I cfg := by
    intro s ts tr cfg hs hts hrun
    generalize hinit : sys.launch s ts = init at hrun
    induction hrun with
    | nil => exact hinit ▸ hlaunch s ts hs hts
    | snoc hrun hnext hcond ih => exact hstep s ts _ _ _ _ (hinit ▸ hrun) hnext hcond ih
  induction h with
  | first hts hrun => exact hlife _ _ _ _ hs hts hrun
  | again _ hstopped hts hrun ih => exact hlife _ _ _ _ (hstop _ ih hstopped) hts hrun

end AppliverySoar.Async
