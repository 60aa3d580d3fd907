import TokenGrammar.Main
import TokenGrammar.Proofs.CommandLine.TokenFiles
import TokenGrammar.Proofs.Grammar.LineEndings
import TokenGrammar.Proofs.Grammar.Locations
import TokenGrammar.Proofs.Grammar.Log
import TokenGrammar.Proofs.Grammar.RoundTrip
import TokenGrammar.Proofs.Json.Trees
import TokenGrammar.Proofs.Lexer.Tiling
import TokenGrammar.Proofs.Match.Frames
import TokenGrammar.Proofs.Match.LeftCalls
import TokenGrammar.Proofs.Match.Reachable
import TokenGrammar.Proofs.Match.SelfInvocation
import TokenGrammar.Proofs.Match.Traces
import TokenGrammar.Proofs.Match.Verbosity
import TokenGrammar.Proofs.Recognizer.Respacing
import TokenGrammar.Proofs.Recognizer.SelfReference
import TokenGrammar.Proofs.Text.LineIndex
