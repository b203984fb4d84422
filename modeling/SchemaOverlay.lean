import SchemaOverlay.Config.Document
import SchemaOverlay.Record.Schema
import SchemaOverlay.Record.Settings
import SchemaOverlay.Proofs.Attachment
import SchemaOverlay.Proofs.Orphans
import SchemaOverlay.Proofs.Resolution
import SchemaOverlay.Proofs.Selection
import SchemaOverlay.Proofs.Catalog
import SchemaOverlay.Proofs.Dictionary
import SchemaOverlay.Proofs.Cancellation
import SchemaOverlay.Proofs.Representation
import SchemaOverlay.Proofs.Handles
import SchemaOverlay.Proofs.History
import SchemaOverlay.Proofs.Merging
import SchemaOverlay.Proofs.Ownership
import SchemaOverlay.Proofs.Queries
import SchemaOverlay.Proofs.Creation
import SchemaOverlay.Proofs.Transparency
import SchemaOverlay.Proofs.OrphanSettings
import SchemaOverlay.Proofs.RealPart
import SchemaOverlay.Proofs.References
import SchemaOverlay.Proofs.Sharing
import SchemaOverlay.Proofs.Layout
import SchemaOverlay.Proofs.Records
import SchemaOverlay.Proofs.SnapshotText
import SchemaOverlay.Proofs.ValueText
import SchemaOverlay.Proofs.SettingsText
import SchemaOverlay.Proofs.CatalogErrors
import SchemaOverlay.Proofs.CreationEvents
import SchemaOverlay.Proofs.CreationReports
import SchemaOverlay.Proofs.Decisions
import SchemaOverlay.Proofs.DescriptionChoice
import SchemaOverlay.Proofs.DescriptionNames
import SchemaOverlay.Proofs.Unwrapping
import SchemaOverlay.Proofs.Demands
import SchemaOverlay.Proofs.Ordinals
import SchemaOverlay.Proofs.TypeNames
import SchemaOverlay.Proofs.Ancestors
import SchemaOverlay.Proofs.Cursor
import SchemaOverlay.Proofs.NameLists
