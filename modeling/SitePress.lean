import SitePress.Command.Arguments
import SitePress.Command.Directive
import SitePress.Command.FieldValue
import SitePress.Command.Libraries
import SitePress.Command.Log
import SitePress.Command.LogFilter
import SitePress.Command.Run
import SitePress.Files.Arrange
import SitePress.Files.Error
import SitePress.Files.Path
import SitePress.Files.Tree
import SitePress.Main
import SitePress.Pattern.Bracket
import SitePress.Pattern.Escape
import SitePress.Pattern.Mode
import SitePress.Pattern.Validity
import SitePress.Proofs.Command.Directive
import SitePress.Proofs.Command.Displacement
import SitePress.Proofs.Command.FieldValue
import SitePress.Proofs.Command.LogFilter
import SitePress.Proofs.Command.Refinement
import SitePress.Proofs.Command.Report
import SitePress.Proofs.Command.Trace
import SitePress.Proofs.Except
import SitePress.Proofs.Files.Denotation
import SitePress.Proofs.Files.Limits
import SitePress.Proofs.Files.Path
import SitePress.Proofs.Pattern.Bracket
import SitePress.Proofs.Pattern.Grammar
import SitePress.Proofs.Pattern.Reading
import SitePress.Proofs.Site.Collision
import SitePress.Proofs.Site.Halting
import SitePress.Proofs.Site.Isolation
import SitePress.Proofs.Site.Naming
import SitePress.Proofs.Site.Order
import SitePress.Proofs.Site.Sensitivity
import SitePress.Proofs.Site.Stages
import SitePress.Proofs.Site.Stamping
import SitePress.Proofs.Site.Writing
import SitePress.Proofs.Template.Block
import SitePress.Proofs.Template.BodyBytes
import SitePress.Proofs.Template.Completion
import SitePress.Proofs.Template.Concatenation
import SitePress.Proofs.Template.Dependence
import SitePress.Proofs.Template.Derivation
import SitePress.Proofs.Template.Filling
import SitePress.Proofs.Template.FormatSpec
import SitePress.Proofs.Template.Key
import SitePress.Proofs.Template.KeyEnd
import SitePress.Proofs.Template.Marker
import SitePress.Proofs.Template.Message
import SitePress.Proofs.Template.Numbers
import SitePress.Proofs.Template.Piece
import SitePress.Proofs.Template.Respelling
import SitePress.Proofs.Template.Segment
import SitePress.Proofs.Template.Sensitivity
import SitePress.Proofs.Template.Source
import SitePress.Proofs.Template.Sweep
import SitePress.Proofs.Text.Ascii
import SitePress.Proofs.Text.Bytes
import SitePress.Proofs.Text.CharacterClass
import SitePress.Proofs.Text.Escaping
import SitePress.Proofs.Text.Literal
import SitePress.Proofs.Text.Numeral
import SitePress.Proofs.Text.Quoted
import SitePress.Proofs.Text.Run
import SitePress.Site.Build
import SitePress.Site.Error
import SitePress.Site.Page
import SitePress.Template.Error
import SitePress.Template.FormatSpec
import SitePress.Template.Grammar
import SitePress.Template.Key
import SitePress.Template.Normal
import SitePress.Template.Parser
import SitePress.Template.Placeholder
import SitePress.Template.Segment
import SitePress.Template.Source
import SitePress.Text.Basic
import SitePress.Text.CharacterClass
import SitePress.Text.CharacterClass.Word
import SitePress.Text.Hexadecimal
import SitePress.Text.Literal
import SitePress.Text.Numeral
import SitePress.Text.Quoted
