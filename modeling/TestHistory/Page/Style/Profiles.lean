/-!
# Style: profiles and notifications

Bars, stacks, notifications and narrow screens.
-/

namespace TestHistory.Page.Style.Profiles

def lines : List String := [
  ".pprof-section \x7b margin-top: 12px; border: 1px solid var(--border-color); border-radius: 6px; padding: 12px; \x7d",
  ".pprof-section-title \x7b font-weight: 600; font-size: 14px; margin-bottom: 8px; \x7d",
  ".pprof-header \x7b position: relative; display: flex; justify-content: space-between; align-items: center; margin-bottom: 10px; \x7d",
  ".pprof-stats \x7b display: flex; gap: 16px; font-size: 13px; color: var(--text-secondary); \x7d",
  ".pprof-stats strong \x7b color: var(--text-primary); \x7d",
  ".pprof-help-btn \x7b padding: 3px 8px; font-size: 11px; \x7d",
  ".pprof-help-popup \x7b",
  "    display: none;",
  "    position: absolute;",
  "    right: 0;",
  "    top: 110%;",
  "    z-index: 10;",
  "    max-width: 360px;",
  "    padding: 10px 12px;",
  "    font-size: 12px;",
  "    background: var(--bg-primary);",
  "    border: 1px solid var(--border-color);",
  "    border-radius: 6px;",
  "    box-shadow: 0 4px 12px rgba(0, 0, 0, 0.15);",
  "\x7d",
  ".pprof-help-popup.visible \x7b display: block; \x7d",
  ".pprof-help-popup code \x7b background: var(--bg-secondary); padding: 1px 4px; border-radius: 3px; \x7d",
  ".pprof-bars \x7b display: flex; flex-direction: column; gap: 6px; \x7d",
  ".pprof-bar-item \x7b display: grid; grid-template-columns: 200px 1fr; gap: 8px; align-items: center; font-size: 12px; \x7d",
  ".pprof-bar-label \x7b overflow: hidden; text-overflow: ellipsis; white-space: nowrap; font-family: ui-monospace, SFMono-Regular, Menlo, monospace; \x7d",
  ".pprof-bar-container \x7b position: relative; height: 18px; background: var(--bg-secondary); border-radius: 4px; \x7d",
  ".pprof-bar \x7b height: 100%; background: linear-gradient(90deg, #3b82f6, #8b5cf6); border-radius: 4px; \x7d",
  ".pprof-bar-value \x7b position: absolute; right: 6px; top: 1px; font-size: 11px; color: var(--text-primary); \x7d",
  ".pprof-stacks \x7b display: flex; flex-direction: column; gap: 4px; \x7d",
  ".pprof-stack-item \x7b border: 1px solid var(--border-color); border-radius: 4px; \x7d",
  ".pprof-stack-header \x7b display: flex; gap: 8px; align-items: center; padding: 6px 8px; cursor: pointer; font-size: 12px; \x7d",
  ".pprof-stack-header:hover \x7b background: var(--bg-hover); \x7d",
  ".pprof-stack-count \x7b min-width: 40px; font-weight: 600; color: var(--accent-color); \x7d",
  ".pprof-stack-name \x7b flex: 1; overflow: hidden; text-overflow: ellipsis; white-space: nowrap; font-family: ui-monospace, SFMono-Regular, Menlo, monospace; \x7d",
  ".pprof-stack-toggle \x7b font-size: 10px; color: var(--text-secondary); transition: transform 0.2s; \x7d",
  ".pprof-stack-item.expanded .pprof-stack-toggle \x7b transform: rotate(90deg); \x7d",
  ".pprof-stack-frames \x7b display: none; padding: 6px 8px 8px 56px; border-top: 1px solid var(--border-color); \x7d",
  ".pprof-stack-item.expanded .pprof-stack-frames \x7b display: block; \x7d",
  ".pprof-frame \x7b font-family: ui-monospace, SFMono-Regular, Menlo, monospace; font-size: 11px; padding: 1px 0; word-break: break-all; \x7d",
  ".pprof-raw-toggle \x7b margin-top: 10px; font-size: 12px; \x7d",
  ".pprof-raw-content \x7b display: none; margin-top: 8px; \x7d",
  ".pprof-raw-content.visible \x7b display: block; \x7d",
  ".history \x7b display: flex; gap: 4px; flex-wrap: wrap; \x7d",
  ".notification \x7b",
  "    position: fixed;",
  "    bottom: 24px;",
  "    right: 24px;",
  "    padding: 10px 16px;",
  "    border-radius: 6px;",
  "    background: var(--success-bg);",
  "    color: var(--success-text);",
  "    z-index: 200;",
  "\x7d",
  ".notification.warning \x7b background: var(--warning-bg); color: var(--warning-text); \x7d",
  "@media (max-width: 900px) \x7b",
  "    .charts-container, .comparison-grid, .comparison-run-info \x7b grid-template-columns: 1fr; \x7d",
  "    .latest-card \x7b grid-column: auto; \x7d",
  "\x7d"]

end TestHistory.Page.Style.Profiles
