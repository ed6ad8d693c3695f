/-!
# Style: the log viewer

Controls, lines, levels and search hits.
-/

namespace TestHistory.Page.Style.Log

def lines : List String := [
  ".log-controls \x7b display: flex; flex-wrap: wrap; gap: 6px; padding: 8px 12px; align-items: center; font-size: 12px; \x7d",
  ".log-controls .btn \x7b padding: 4px 8px; font-size: 12px; \x7d",
  ".log-controls .filter-input \x7b padding: 4px 8px; min-width: 180px; \x7d",
  ".log-filters \x7b position: relative; \x7d",
  ".log-filters-menu \x7b",
  "    display: none;",
  "    position: absolute;",
  "    top: 110%;",
  "    left: 0;",
  "    z-index: 10;",
  "    min-width: 180px;",
  "    padding: 8px;",
  "    background: var(--bg-primary);",
  "    border: 1px solid var(--border-color);",
  "    border-radius: 6px;",
  "    box-shadow: 0 4px 12px rgba(0, 0, 0, 0.15);",
  "\x7d",
  ".log-filters-menu.show \x7b display: block; \x7d",
  ".log-filters-menu label \x7b display: flex; align-items: center; gap: 6px; padding: 3px 0; text-transform: capitalize; \x7d",
  ".filter-count \x7b margin-left: auto; color: var(--text-secondary); \x7d",
  ".log-filters-actions \x7b display: flex; gap: 6px; margin-top: 6px; \x7d",
  ".log-view \x7b",
  "    position: relative;",
  "    background: var(--log-bg);",
  "    color: var(--log-text);",
  "    font-family: ui-monospace, SFMono-Regular, Menlo, monospace;",
  "    font-size: 12px;",
  "    padding: 12px 0;",
  "    max-height: 55vh;",
  "    overflow: auto;",
  "    white-space: pre;",
  "\x7d",
  ".log-line \x7b display: flex; min-height: 1.4em; transition: background 0.3s ease; \x7d",
  ".log-line.hidden \x7b display: none; \x7d",
  ".log-line.flash \x7b background: rgba(96, 165, 250, 0.3); \x7d",
  ".log-line-number \x7b",
  "    flex-shrink: 0;",
  "    width: 56px;",
  "    padding-right: 12px;",
  "    text-align: right;",
  "    color: #64748b;",
  "    user-select: none;",
  "\x7d",
  ".log-line-content \x7b flex: 1; padding-right: 12px; \x7d",
  ".log-view.wrap .log-line-content \x7b white-space: pre-wrap; word-break: break-all; \x7d",
  ".log-line.level-error .log-line-content \x7b color: #fca5a5; \x7d",
  ".log-line.level-warning .log-line-content \x7b color: #fcd34d; \x7d",
  ".log-line.log-separator \x7b border-top: 1px dashed #475569; margin-top: 6px; \x7d",
  ".log-line.log-step .log-line-content \x7b color: #93c5fd; font-weight: 600; \x7d",
  ".log-line.log-passed \x7b background: rgba(16, 185, 129, 0.15); \x7d",
  ".log-line.log-failed \x7b background: rgba(239, 68, 68, 0.2); \x7d",
  "mark.search-hit \x7b background: #fde68a; color: #0f172a; border-radius: 2px; \x7d",
  "mark.search-hit.current \x7b background: #f97316; color: #ffffff; \x7d"]

end TestHistory.Page.Style.Log
