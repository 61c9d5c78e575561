import ServiceWiring.CommandLine.Request

/-!
Arguments of the program. Its own options end at the name of a command, and that command reads the
rest: flags, options with the text behind them, and behind `--` whatever is given.
-/

namespace ServiceWiring.CommandLine

namespace Options

theorem read?_mark (options : Options) (rest : List String) :
    options.read? ("--" :: rest) = some { positional := rest } := by
  simp [read?]

theorem read?_flag {options : Options} {name : String} (hmark : name ≠ "--")
    (hoption : isOption name = true) (hplain : splitAttached name = (name, none))
    (hflag : name ∈ options.flags) (rest : List String) :
    options.read? (name :: rest) = (options.read? rest).map (·.set (.flag name)) := by
  have hflags : options.flags.contains name = true := by simpa using hflag
  rw [read?, if_neg hmark, if_pos hoption, hplain]
  simp only [if_pos hflags]

/-- The argument behind an option that takes text is its text, whatever it looks like. -/
theorem read?_valued {options : Options} {name : String} (hmark : name ≠ "--")
    (hoption : isOption name = true) (hplain : splitAttached name = (name, none))
    (hflags : name ∉ options.flags) (hvalued : name ∈ options.valued) (text : String)
    (rest : List String) :
    options.read? (name :: text :: rest) =
      (options.read? rest).map (·.set (.value name text)) := by
  have hflag : ¬ options.flags.contains name = true := by simpa using hflags
  have hvalue : options.valued.contains name = true := by simpa using hvalued
  rw [read?, if_neg hmark, if_pos hoption, hplain]
  simp only [if_neg hflag, if_pos hvalue]

end Options

/-- The options of the program end at the command, which reads the rest. -/
theorem ofArguments_of_reading {name : String} {rest : List String} {options : Options}
    {reading : Reading} (hname : Options.isOption name = false)
    (hoptions : optionsOf? name = some options) (hread : options.read? rest = some reading) :
    Request.ofArguments (name :: rest) = .ofReading name reading := by
  have hmark : name ≠ "--" := by
    rintro rfl
    exact absurd hname (by decide)
  have hoption : ¬ Options.isOption name = true := by rw [hname]; exact Bool.false_ne_true
  have hroot : rootOptions.read? (name :: rest) = some { positional := name :: rest } := by
    rw [Options.read?, if_neg hmark, if_neg hoption]
    rfl
  have hplain : ¬ ({ positional := name :: rest } : Reading).has helpFlag = true :=
    Bool.false_ne_true
  simp only [Request.ofArguments, hroot, if_neg hplain, hoptions, hread]

end ServiceWiring.CommandLine
