import Grc.Tenants.TeamWorkRuns
import Grc.Cases.SubStatus
import Grc.Cases.SignoffGate
import Grc.Proposals.BatchRuns
import Grc.Proposals.Retry
import Grc.Shared.AuditWhole
import Grc.Shared.OutboxRuns
import Grc.Proposals.VersionNumbers
import Grc.Proposals.Sourced
import Grc.Taxonomy.CategoryRuns
import Grc.Watch.Standing
import Grc.Watch.Coverage
import Grc.Register.GapRuns
import Grc.Tenants.Profile
import Grc.Home.CalendarReads
import Grc.Identity.RefreshRuns
import Grc.Identity.MembersRuns
import Grc.Identity.Staffing
import Grc.Register.RefusedWrites
import Grc.Agents.FinishedAccount
import Grc.Agents.BankBeats
import Grc.Agents.CapRuns
import Grc.Agents.WhatApplies
import Grc.Agents.Summary
import Grc.Agents.UrlFetch
import Grc.Search.AskEvents
import Grc.Search.AskSlots
import Grc.Search.Snippets
import Grc.Cases.FanoutRuns
import Grc.Identity.CeremonyRuns
import Grc.Identity.RateLimit
import Grc.Tenants.SupportRuns
import Grc.Governance.ReachRuns
import Grc.Shared.LlmReads
import Grc.Taxonomy.DraftKeys
import Grc.Register.DutyCounts
import Grc.Register.UnitRuns
import Grc.Watch.TimelineRuns
import Grc.Library.SentenceDiff
import Grc.Register.ManyAnswerRuns
import Grc.Watch.Repeats
import Grc.Collab.Notices
import Grc.Tenants.RemovalRuns
import Grc.Agents.PlatformBeatRuns
import Grc.Taxonomy.SuggestionVerdicts
import Grc.Tenants.RegisterApplied
import Grc.Collab.OverdueNotices
