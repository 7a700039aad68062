import StoryAtlas.Main
import StoryAtlas.Proofs.Document.Agreement
import StoryAtlas.Proofs.Document.Calls
import StoryAtlas.Proofs.Document.Growth
import StoryAtlas.Proofs.Document.Likeness
import StoryAtlas.Proofs.Document.Traversal
import StoryAtlas.Proofs.FirstOfEach
import StoryAtlas.Proofs.Inference.DetectorLists
import StoryAtlas.Proofs.Inference.FallbackEdges
import StoryAtlas.Proofs.Inference.InlineMarkers
import StoryAtlas.Proofs.Inference.NamedEnds
import StoryAtlas.Proofs.Inference.NodeEdges
import StoryAtlas.Proofs.Inference.OutgoingEdges
import StoryAtlas.Proofs.Inference.RelationTexts
import StoryAtlas.Proofs.Inference.TargetLists
import StoryAtlas.Proofs.Markup.Balance
import StoryAtlas.Proofs.Markup.DiagnosticPlaces
import StoryAtlas.Proofs.Markup.DoctypeManuscript
import StoryAtlas.Proofs.Markup.DocumentOrder
import StoryAtlas.Proofs.Markup.DocumentShape
import StoryAtlas.Proofs.Markup.Elements
import StoryAtlas.Proofs.Markup.EntityDeclarations
import StoryAtlas.Proofs.Markup.EntityReach
import StoryAtlas.Proofs.Markup.EntitySearch
import StoryAtlas.Proofs.Markup.ErrorLists
import StoryAtlas.Proofs.Markup.LineEndings
import StoryAtlas.Proofs.Markup.LineFeedAttributes
import StoryAtlas.Proofs.Markup.LineFeedEntities
import StoryAtlas.Proofs.Markup.LineFeedTokens
import StoryAtlas.Proofs.Markup.Manuscript
import StoryAtlas.Proofs.Markup.Outline
import StoryAtlas.Proofs.Markup.Reading
import StoryAtlas.Proofs.Markup.ReferenceMeaning
import StoryAtlas.Proofs.Markup.References
import StoryAtlas.Proofs.Markup.RoundTrip
import StoryAtlas.Proofs.Markup.SourceOrder
import StoryAtlas.Proofs.Markup.SourceSpans
import StoryAtlas.Proofs.Markup.Tags
import StoryAtlas.Proofs.Markup.TokenOrder
import StoryAtlas.Proofs.Outcome
import StoryAtlas.Proofs.Registry.Calls
import StoryAtlas.Proofs.Registry.Registrations
import StoryAtlas.Proofs.Render.DescriptionReading
import StoryAtlas.Proofs.Render.EmbeddedData
import StoryAtlas.Proofs.Render.GraphNames
import StoryAtlas.Proofs.Render.Json
import StoryAtlas.Proofs.Render.PageStrings
import StoryAtlas.Proofs.Render.PageTags
import StoryAtlas.Proofs.Render.ScriptData
import StoryAtlas.Proofs.Render.Tokenizer
import StoryAtlas.Proofs.Reports
import StoryAtlas.Proofs.Session.Delivery
import StoryAtlas.Proofs.Session.Library
import StoryAtlas.Proofs.Session.Observation
import StoryAtlas.Proofs.Session.Places
import StoryAtlas.Proofs.Story.Building
import StoryAtlas.Proofs.Story.Labels
import StoryAtlas.Proofs.Story.ListedAttributes
import StoryAtlas.Proofs.Story.Nodes
import StoryAtlas.Proofs.Text.Cuts
import StoryAtlas.Proofs.Text.Lexing
import StoryAtlas.Proofs.Text.Trimming
